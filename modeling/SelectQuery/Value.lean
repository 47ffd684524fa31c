import SelectQuery.Json.Writer

namespace SelectQuery

inductive Value
  | null
  | bool (b : Bool)
  | int (i : Int64)
  | float (x : Binary64)
  | text (s : String)
  | json (j : Json)

namespace Value

def same : Value → Value → Bool
  | .null, .null => true
  | .bool a, .bool b => a == b
  | .int i, .int j => i == j
  | .float x, .float y => x.same y
  | .text s, .text t => s == t
  | .json a, .json b => a.same b
  | _, _ => false

/-- A number is whole if a signed 64-bit word holds it, else a fraction. -/
def ofJson : Json → Value
  | .null | .void => .null
  | .bool b => .bool b
  | .int i => if i.val < 0x8000000000000000 then .int (Int64.ofInt i.val) else .float (.ofInt i.val)
  | .float x => .float x
  | .string s => .text s
  | j => .json j

/-- The first of the kinds, in their order, that the value fits. -/
def read? (j : Json) : Option Value :=
  (if j.isNull then some .null else none)
    <|> j.asBool?.map .bool
    <|> j.asInt64?.map .int
    <|> j.asFloat?.map .float
    <|> j.asString?.map .text
    <|> j.settle?.map .json

def toJson : Value → Json
  | .null => .null
  | .bool b => .bool b
  | .int i => .ofInt i.toInt
  | .float x => .float x
  | .text s => .string s
  | .json j => j

/-- Shown numbers never have a power of ten, nor a point if they are whole. -/
def numberLayout : Binary64.Layout := ⟨.upward, none, false⟩

def displayFloat (x : Binary64) : String :=
  if x.isFinite then String.ofList (numberLayout.write x)
  else if x.isNaN then "NaN"
  else if x.isNegative then "-inf"
  else "inf"

def display : Value → String
  | .null => "NULL"
  | .bool b => if b then "true" else "false"
  | .int i => Text.ofInt i.toInt
  | .float x => displayFloat x
  | .text s => s!"'{s}'"
  | .json j => j.render

end Value

end SelectQuery
