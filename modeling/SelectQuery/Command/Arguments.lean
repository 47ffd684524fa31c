import SelectQuery.Query.Basic
import SelectQuery.Terminal.Display

namespace SelectQuery.Command

structure Flag where
  long : String
  short : Option Char := none
  takesValue : Bool := false
  repeats : Bool := false
  /-- Whether nothing that follows it is looked at. -/
  last : Bool := false
deriving DecidableEq

structure Given where
  flags : List (Flag × String) := []
  others : List String := []

namespace Given

def add (given : Given) (flags : List (Flag × String)) : Given :=
  { given with flags := flags ++ given.flags }

def has (given : Given) (long : String) : Bool := given.flags.any (·.1.long == long)

def value? (given : Given) (long : String) : Option String :=
  (given.flags.find? (·.1.long == long)).map Prod.snd

def isSound (given : Given) : Bool :=
  let single := given.flags.filter fun entry => !entry.1.repeats
  decide (single.map fun entry => entry.1.long).Nodup

end Given

inductive Word
  | flags (flags : List (Flag × String))
  /-- Flags, the last of which takes the next argument as its value. -/
  | needsValue (flags : List (Flag × String)) (flag : Flag)
  | divider
  | other

namespace Word

def withFlag (flag : Flag) : Word → Word
  | .flags fs => .flags ((flag, "") :: fs)
  | .needsValue fs f => .needsValue ((flag, "") :: fs) f
  | word => word

def long? (table : List Flag) (cs : List Char) : Option Word := do
  let flag ← table.find? fun flag => flag.long.toList == cs.takeWhile (· != '=')
  match cs.dropWhile (· != '='), flag.takesValue with
  | [], false => return .flags [(flag, "")]
  | [], true => return .needsValue [] flag
  | _ :: value, true => return .flags [(flag, String.ofList value)]
  | _ :: _, false => none

def short? (table : List Flag) : List Char → Option Word
  | [] => some (.flags [])
  | c :: cs => do
    let flag ← table.find? fun flag => flag.short == some c
    if flag.takesValue then
      match cs with
      | [] => return .needsValue [] flag
      | '=' :: value | value => return .flags [(flag, String.ofList value)]
    else if flag.last then return .flags [(flag, "")]
    else return withFlag flag (← short? table cs)

def isFlag (argument : String) : Bool :=
  match argument.toList with
  | '-' :: _ :: _ => true
  | _ => false

def ofArgument? (table : List Flag) (argument : String) : Option Word :=
  match argument.toList with
  | ['-', '-'] => some .divider
  | '-' :: '-' :: cs => long? table cs
  | '-' :: c :: cs => short? table (c :: cs)
  | _ => some .other

end Word

def read? (table : List Flag) (whole : Bool) : List String → Option Given
  | [] => some {}
  | argument :: rest =>
    match Word.ofArgument? table argument with
    | none => none
    | some (.flags flags) =>
      if flags.any (·.1.last) then some ⟨flags, []⟩
      else (read? table whole rest).map (·.add flags)
    | some (.needsValue flags flag) =>
      match rest with
      | [] => none
      | value :: rest =>
        if Word.isFlag value then none
        else (read? table whole rest).map (·.add (flags ++ [(flag, value)]))
    | some .divider => if whole then some ⟨[], rest⟩ else none
    | some .other =>
      if whole then
        (read? table whole rest).map fun given => { given with others := argument :: given.others }
      else some ⟨[], argument :: rest⟩

inductive Request
  | version
  | help
  | dialects
  | compile (file : String) (dialect : Option Dialect) (mode : Mode) (json : Bool)
  | run (file : String) (url : Option String) (mode : Mode) (format : Terminal.Format)

namespace Request

def verbose : Flag := { long := "verbose", short := some 'v', repeats := true }
def helpFlag : Flag := { long := "help", short := some 'h', last := true }
def versionFlag : Flag := { long := "version", short := some 'V', last := true }
def dialectFlag : Flag := { long := "dialect", short := some 'd', takesValue := true }
def modeFlag : Flag := { long := "mode", short := some 'm', takesValue := true }
def jsonFlag : Flag := { long := "json" }
def urlFlag : Flag := { long := "database-url", takesValue := true }
def formatFlag : Flag := { long := "format", short := some 'f', takesValue := true }

def given? (table : List Flag) (arguments : List String) : Option Given := do
  let given ← read? (verbose :: helpFlag :: table) true arguments
  if given.has "help" || given.isSound then some given else none

def optional {α : Type} (given : Given) (long : String) (absent : α) (read? : String → Option α) :
    Option α :=
  match given.value? long with
  | none => some absent
  | some value => read? value

def dialect? (value : String) : Option (Option Dialect) :=
  match Dialect.ofName value with
  | .ok dialect => some (some dialect)
  | .error _ => none

def file? (given : Given) : Option String :=
  match given.others with
  | [file] => some file
  | _ => none

def mode? (given : Given) : Option Mode := optional given "mode" .rows Mode.ofCode?

def compile? (arguments : List String) : Option Request := do
  let given ← given? [dialectFlag, modeFlag, jsonFlag] arguments
  if given.has "help" then return .help
  return .compile (← file? given) (← optional given "dialect" none dialect?) (← mode? given)
    (given.has "json")

def dialects? (arguments : List String) : Option Request := do
  let given ← given? [] arguments
  if given.has "help" then return .help
  if given.others.isEmpty then return .dialects else none

def run? (url : Option String) (arguments : List String) : Option Request := do
  let given ← given? [urlFlag, modeFlag, formatFlag] arguments
  if given.has "help" then return .help
  return .run (← file? given) (given.value? "database-url" <|> url) (← mode? given)
    (← optional given "format" .table Terminal.Format.ofCode?)

def ofArguments? (url : Option String) (arguments : List String) : Option Request := do
  let given ← read? [verbose, helpFlag, versionFlag] false arguments
  if given.has "help" then return .help
  if given.has "version" then return .version
  match given.others with
  | "compile" :: rest => compile? rest
  | "dialects" :: rest => dialects? rest
  | "run" :: rest => run? url rest
  | "help" :: _ => return .help
  | _ => none

end Request

end SelectQuery.Command
