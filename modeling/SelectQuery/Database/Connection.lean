import SelectQuery.Dialect.Basic
import SelectQuery.Sql.Problem

namespace SelectQuery.Connection

inductive Target
  | memory
  /-- A file, and whether it is made if it is not there. -/
  | file (path : String) (made : Bool)
deriving DecidableEq

def invalid (reason : String) : Error := .connection ("error with configuration: " ++ reason)

def cannotInfer (url : String) : Error :=
  .connection s!"cannot infer a dialect from '{url}'"

def hexDigit? (byte : UInt8) : Option UInt8 :=
  if 0x30 ≤ byte && byte ≤ 0x39 then some (byte - 0x30)
  else if 0x41 ≤ byte && byte ≤ 0x46 then some (byte - 0x37)
  else if 0x61 ≤ byte && byte ≤ 0x66 then some (byte - 0x57)
  else none

def unescaped : List UInt8 → List UInt8
  | 0x25 :: a :: b :: rest =>
    match hexDigit? a, hexDigit? b with
    | some high, some low => (high * 16 + low) :: unescaped rest
    | _, _ => 0x25 :: unescaped (a :: b :: rest)
  | byte :: rest => byte :: unescaped rest
  | [] => []

def ofPath (path : List Char) : Except Error Target :=
  if path.isEmpty || path = ":memory:".toList then .ok .memory
  else
    match String.fromUTF8? ⟨(unescaped (String.ofList path).toUTF8.toList).toArray⟩ with
    | none => .error (invalid "invalid utf-8 sequence")
    | some path => .ok (.file path false)

def unknownValue (key value : String) : Error :=
  invalid ("unknown value \"" ++ value ++ "\" for \x60" ++ key ++ "\x60")

def withSetting (target : Target) (key value : String) : Except Error Target :=
  let allow (values : List String) : Except Error Target :=
    if value ∈ values then .ok target else .error (unknownValue key value)
  match key, value, target with
  | "mode", "memory", _ => .ok .memory
  | "mode", "rwc", .file path _ => .ok (.file path true)
  | "mode", _, _ => allow ["ro", "rw", "rwc"]
  | "cache", _, _ => allow ["private", "shared"]
  | "immutable", _, _ => allow ["true", "1", "false", "0"]
  | _, _, _ =>
    .error (invalid ("unknown query parameter \x60" ++ key ++ "\x60 while parsing connection URL"))

def setting (text : String) : String × String :=
  let cs := text.toList
  (String.ofList (cs.takeWhile (· != '=')), String.ofList ((cs.dropWhile (· != '=')).drop 1))

def withSettings (target : Target) (settings : List Char) : Except Error Target :=
  let texts := ((String.ofList settings).splitOn "&").filter (· != "")
  texts.foldlM (fun target text => withSetting target (setting text).1 (setting text).2) target

def ofRest (rest : List Char) : Except Error Target := do
  let rest := if "//".toList.isPrefixOf rest then rest.drop 2 else rest
  withSettings (← ofPath (rest.takeWhile (· != '?'))) ((rest.dropWhile (· != '?')).drop 1)

def target (url : String) : Except Error Target :=
  match Dialect.ofUrl? url with
  | none => .error (cannotInfer url)
  | some .sqlite =>
    match url.toList.dropWhile (· != ':') with
    | [] => .error (invalid "relative URL without a base")
    | _ :: rest => ofRest rest
  | some .sqlServer => .error (.unsupportedDialect Dialect.sqlServer.name)
  | some dialect => .error (.connection s!"no {dialect.name} server")

def cannotOpen : Error := .connection (Sql.reported 14 "unable to open database file")

end SelectQuery.Connection
