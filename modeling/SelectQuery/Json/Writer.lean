import SelectQuery.Json.Basic
import SelectQuery.Binary64.Decimal
import SelectQuery.Text.Basic

namespace SelectQuery.Json

/-- Fractions are written with the fewest digits, with a point from `1e-5` up to `1e16`. -/
def numberLayout : Binary64.Layout := ⟨.toEven, some (-5, 16), true⟩

def writeFloat (x : Binary64) : List Char :=
  if x.isFinite then numberLayout.write x else "null".toList

def escape (c : Char) : List Char :=
  if c = '"' then ['\\', '"']
  else if c = '\\' then ['\\', '\\']
  else if c = '\x08' then ['\\', 'b']
  else if c = '\x0c' then ['\\', 'f']
  else if c = '\n' then ['\\', 'n']
  else if c = '\r' then ['\\', 'r']
  else if c = '\t' then ['\\', 't']
  else if c.toNat < 0x20 then
    ['\\', 'u', '0', '0', Nat.digitChar (c.toNat / 16), Nat.digitChar (c.toNat % 16)]
  else [c]

def writeString (s : String) : List Char := '"' :: s.toList.flatMap escape ++ ['"']

mutual

def write : Json → List Char
  | .null | .void => "null".toList
  | .bool b => if b then "true".toList else "false".toList
  | .int i => Text.intDigits i.val
  | .float x => writeFloat x
  | .string s => writeString s
  | .array [] => ['[', ']']
  | .array (j :: js) => '[' :: write j ++ writeItems js
  | .object [] => ['\x7b', '\x7d']
  | .object ((name, j) :: ms) => '\x7b' :: writeString name ++ ':' :: write j ++ writeMembers ms

def writeItems : List Json → List Char
  | [] => [']']
  | j :: js => ',' :: write j ++ writeItems js

def writeMembers : List (String × Json) → List Char
  | [] => ['\x7d']
  | (name, j) :: ms => ',' :: writeString name ++ ':' :: write j ++ writeMembers ms

end

def render (j : Json) : String := String.ofList j.write

def lineBreak (level : Nat) : List Char := '\n' :: List.replicate (2 * level) ' '

mutual

def indent (level : Nat) : Json → List Char
  | .array (j :: js) => '[' :: lineBreak (level + 1) ++ indent (level + 1) j ++ indentItems level js
  | .object ((name, j) :: ms) =>
    '\x7b' :: lineBreak (level + 1) ++ writeString name ++ ':' :: ' ' :: indent (level + 1) j ++
      indentMembers level ms
  | j => write j

def indentItems (level : Nat) : List Json → List Char
  | [] => lineBreak level ++ [']']
  | j :: js => ',' :: lineBreak (level + 1) ++ indent (level + 1) j ++ indentItems level js

def indentMembers (level : Nat) : List (String × Json) → List Char
  | [] => lineBreak level ++ ['\x7d']
  | (name, j) :: ms =>
    ',' :: lineBreak (level + 1) ++ writeString name ++ ':' :: ' ' :: indent (level + 1) j ++
      indentMembers level ms

end

def renderIndented (j : Json) : String := String.ofList (j.indent 0)

end SelectQuery.Json
