import SelectQuery.NameMap
import SelectQuery.Binary64.Basic

namespace SelectQuery

/-- The whole numbers that are kept exactly: those of a signed or an unsigned 64-bit word. -/
structure WholeNumber where
  val : Int
  bounded : -0x8000000000000000 ≤ val ∧ val < 0x10000000000000000
deriving DecidableEq

inductive Json
  | null
  | bool (b : Bool)
  | int (i : WholeNumber)
  | float (x : Binary64)
  | string (s : String)
  | array (items : List Json)
  | object (members : List (String × Json))
  /-- A part of a text that is well formed and has no value, such as a number out of range. -/
  | void

namespace Json

def kind : Json → String
  | .null => "null"
  | .bool _ => "a boolean"
  | .int _ | .float _ => "a number"
  | .string _ => "a string"
  | .array _ => "an array"
  | .object _ => "an object"
  | .void => "no value"

mutual

def same : Json → Json → Bool
  | .null, .null => true
  | .bool a, .bool b => a == b
  | .int i, .int j => i == j
  | .float x, .float y => x.same y
  | .string s, .string t => s == t
  | .array a, .array b => sameItems a b
  | .object a, .object b => sameMembers a b
  | _, _ => false
termination_by structural j => j

def sameItems : List Json → List Json → Bool
  | [], [] => true
  | a :: as, b :: bs => same a b && sameItems as bs
  | _, _ => false
termination_by structural js => js

def sameMembers : List (String × Json) → List (String × Json) → Bool
  | [], [] => true
  | (m, a) :: as, (n, b) :: bs => m == n && same a b && sameMembers as bs
  | _, _ => false
termination_by structural ms => ms

end

mutual

/-- The form in which a value is kept: members in the order of their names, of a repeated name the
last, and null for a number that is not finite. A value with a void part is not kept. -/
def settle? : Json → Option Json
  | .null => some .null
  | .bool b => some (.bool b)
  | .int i => some (.int i)
  | .float x => some (if x.isFinite then .float x else .null)
  | .string s => some (.string s)
  | .array items => (settleItems? items).map .array
  | .object members => (settleMembers? members).map fun ms => .object (Entries.ofList ms)
  | .void => none

def settleItems? : List Json → Option (List Json)
  | [] => some []
  | j :: js => do
    let j ← settle? j
    let js ← settleItems? js
    return j :: js

def settleMembers? : List (String × Json) → Option (List (String × Json))
  | [] => some []
  | (name, j) :: ms => do
    let j ← settle? j
    let ms ← settleMembers? ms
    return (name, j) :: ms

end

mutual

def nesting : Json → Nat
  | .array items => 1 + nestingItems items
  | .object members => 1 + nestingMembers members
  | _ => 0

def nestingItems : List Json → Nat
  | [] => 0
  | j :: js => max (nesting j) (nestingItems js)

def nestingMembers : List (String × Json) → Nat
  | [] => 0
  | (_, j) :: ms => max (nesting j) (nestingMembers ms)

end

def ofNat (n : Nat) : Json :=
  if h : n < 0x10000000000000000 then .int ⟨n, by omega⟩ else .float (.ofInt n)

def ofInt (i : Int) : Json :=
  if h : -0x8000000000000000 ≤ i ∧ i < 0x10000000000000000 then .int ⟨i, h⟩ else .float (.ofInt i)

def asBool? : Json → Option Bool
  | .bool b => some b
  | _ => none

def asString? : Json → Option String
  | .string s => some s
  | _ => none

def asArray? : Json → Option (List Json)
  | .array items => some items
  | _ => none

def asObject? : Json → Option (List (String × Json))
  | .object members => some members
  | _ => none

def asInt64? : Json → Option Int64
  | .int i => if i.val < 0x8000000000000000 then some (Int64.ofInt i.val) else none
  | _ => none

def asUInt64? : Json → Option UInt64
  | .int i => if 0 ≤ i.val then some (UInt64.ofNat i.val.toNat) else none
  | _ => none

def asFloat? : Json → Option Binary64
  | .int i => some (.ofInt i.val)
  | .float x => some x
  | _ => none

def isNull : Json → Bool
  | .null => true
  | _ => false

/-- The named values of a record, given by name in an object or by position in an array. Other
names are passed over; one of these names must not come twice, nor an array be too long. -/
def fields? (names : List String) : Json → Option (List (String × Json))
  | .object members =>
    let known := members.filter (names.contains ·.1)
    if (known.map Prod.fst).Nodup then some known else none
  | .array items => if items.length ≤ names.length then some (names.zip items) else none
  | _ => none

def choice? : Json → Option String
  | .string name | .object [(name, .null)] => some name
  | _ => none

def field {α : Type} (fields : List (String × Json)) (name : String) (absent : α)
    (read? : Json → Option α) : Option α :=
  match fields.lookup name with
  | none => some absent
  | some j => read? j

def required {α : Type} (fields : List (String × Json)) (name : String)
    (read? : Json → Option α) : Option α :=
  (fields.lookup name).bind read?

def nullable {α : Type} (read? : Json → Option α) (j : Json) : Option (Option α) :=
  if j.isNull then some none else (read? j).map some

def list {α : Type} (read? : Json → Option α) (j : Json) : Option (List α) :=
  j.asArray?.bind (·.mapM read?)

end Json

end SelectQuery
