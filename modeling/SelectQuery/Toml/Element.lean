import SelectQuery.Toml.Moment
import SelectQuery.Toml.Number
import SelectQuery.Toml.Text
import SelectQuery.Toml.Tree

namespace SelectQuery.Toml

/-- Arrays and inline tables stand at most this deep inside one another, and a key has at most
this many parts. -/
def limit : Nat := 79

def inBareKey (c : Char) : Bool :=
  Text.isAsciiLetter c || Text.isAsciiDigit c || c == '-' || c == '_'

def keyPart? : Reader String := fun cs =>
  match cs.takeWhile inBareKey with
  | [] => lineString? cs
  | name => some (String.ofList name, cs.dropWhile inBareKey)

def key? : Nat → Reader (List String)
  | 0 => fun _ => none
  | parts + 1 => fun cs => do
    let (name, cs) ← keyPart? (skipBlanks cs)
    match skipBlanks cs with
    | '.' :: cs => do
      let (path, cs) ← key? parts cs
      return (name :: path, cs)
    | cs => return ([name], cs)

def inWord (c : Char) : Bool := inBareKey c || c == '+' || c == '.' || c == ':'

def word? (cs : List Char) : Option Json :=
  if cs = "true".toList then some (.bool true)
  else if cs = "false".toList then some (.bool false)
  else number? cs

def ofMoment (text : String) : Json := .object [("$__toml_private_datetime", .string text)]

def scalar? : Reader Json := fun cs =>
  match string? cs with
  | some (s, cs) => some (.string s, cs)
  | none =>
    match Moment.read? cs with
    | some (text, cs) => some (ofMoment text, cs)
    | none => (word? (cs.takeWhile inWord)).map fun j => (j, cs.dropWhile inWord)

def pair? (value? : Reader Json) : Reader (List String × Json) := fun cs => do
  let (path, cs) ← key? limit cs
  match cs with
  | '=' :: cs => do
    let (j, cs) ← value? (skipBlanks cs)
    return ((path, j), cs)
  | _ => none

def items? (value? : Reader Json) : Nat → Reader (List Json)
  | 0 => fun _ => none
  | fuel + 1 => fun cs =>
    match skipLines false cs with
    | ']' :: cs => some ([], cs)
    | cs => do
      let (j, cs) ← value? cs
      match skipLines false cs with
      | ']' :: cs => return ([j], cs)
      | ',' :: cs => do
        let (js, cs) ← items? value? fuel cs
        return (j :: js, cs)
      | _ => none

def pairs? (value? : Reader Json) : Nat → Reader (List (List String × Json))
  | 0 => fun _ => none
  | fuel + 1 => fun cs => do
    let (pair, cs) ← pair? value? cs
    match skipBlanks cs with
    | '\x7d' :: cs => return ([pair], cs)
    | ',' :: cs => do
      let (pairs, cs) ← pairs? value? fuel cs
      return (pair :: pairs, cs)
    | _ => none

def ofPairs? (pairs : List (List String × Json)) : Option Json :=
  (pairs.foldlM (fun table pair => Table.assign pair.2 true pair.1 table) []).map Table.toJson

def inlineTable? (value? : Reader Json) : Reader Json := fun cs =>
  match skipBlanks cs with
  | '\x7d' :: cs => some (.object [], cs)
  | cs => do
    let (pairs, cs) ← pairs? value? cs.length cs
    return (← ofPairs? pairs, cs)

def value? : Nat → Reader Json
  | 0 => scalar?
  | levels + 1 => fun cs =>
    match cs with
    | '[' :: cs => (items? (value? levels) cs.length cs).map fun (js, cs) => (.array js, cs)
    | '\x7b' :: cs => inlineTable? (value? levels) cs
    | cs => scalar? cs

end SelectQuery.Toml
