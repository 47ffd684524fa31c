import SelectQuery.Error
import SelectQuery.Value

namespace SelectQuery

abbrev Parameters := NameMap Value

namespace Parameters

/-- The name without white space around it and without the marks in front. -/
def normalName (name : String) : String :=
  String.ofList (Text.trimLeft ((Text.trim name.toList).dropWhile (· == '@')))

structure Stopped where
  error : Error
  parameters : Parameters

def add (parameters : Parameters) (name : String) (value : Value) : Except Error Parameters := do
  requireText (normalName name) "name"
  return parameters.insert (normalName name) value

def addAll (parameters : Parameters) : List (String × Json) → Except Stopped Parameters
  | [] => .ok parameters
  | (name, value) :: rest =>
    match parameters.add name (.ofJson value) with
    | .ok parameters => addAll parameters rest
    | .error error => .error ⟨error, parameters⟩

def mergeObject (parameters : Parameters) : Json → Except Stopped Parameters
  | .object members => addAll parameters (Entries.ofList members)
  | .null => .ok parameters
  | j =>
    let reason := "expected a struct or map of named values, got " ++ j.kind
    .error ⟨.notNamedValues reason, parameters⟩

def mergeEntries (parameters : Parameters) : List (String × Value) → Except Stopped Parameters
  | [] => .ok parameters
  | (name, value) :: rest =>
    match parameters.get? name with
    | none => mergeEntries (parameters.insert name value) rest
    | some existing =>
      if existing.same value then mergeEntries parameters rest
      else .error ⟨.parameterConflict name, parameters⟩

def mergeNested (parameters nested : Parameters) : Except Stopped Parameters :=
  mergeEntries parameters nested.entries

def value? (parameters : Parameters) (name : String) : Option Value :=
  parameters.get? (normalName name)

def contains (parameters : Parameters) (name : String) : Bool := (parameters.value? name).isSome

def sameEntries : List (String × Value) → List (String × Value) → Bool
  | [], [] => true
  | (m, a) :: as, (n, b) :: bs => m == n && a.same b && sameEntries as bs
  | _, _ => false

def same (p q : Parameters) : Bool := sameEntries p.entries q.entries

def toJson (parameters : Parameters) : Json :=
  .object (parameters.entries.map fun (name, value) => (name, value.toJson))

def readMembers? : List (String × Json) → Option (List (String × Value))
  | [] => some []
  | (name, j) :: rest => do
    let value ← Value.read? j
    let values ← readMembers? rest
    return (name, value) :: values

def read? (j : Json) : Option Parameters :=
  (j.asObject?.bind readMembers?).map .ofList

end Parameters

end SelectQuery
