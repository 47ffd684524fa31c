import SelectQuery.Binding.Token
import SelectQuery.Parameters

namespace SelectQuery

structure BoundQuery where
  sql : String
  values : List Value

namespace Binding

structure Progress where
  sql : String := ""
  values : List Value := []
  slots : NameMap Nat := .empty

namespace Progress

def write (progress : Progress) (text : String) : Progress :=
  { progress with sql := progress.sql ++ text }

def append (progress : Progress) (dialect : Dialect) (value : Value) : Progress :=
  { progress with values := progress.values ++ [value] }.write
    (dialect.placeholder (progress.values.length + 1))

/-- An occurrence of a name. The values of a name that has its slot already are not repeated. -/
def occurrence (progress : Progress) (dialect : Dialect) (name : String) (value : Value) :
    Progress :=
  if dialect.sharesValues then
    match progress.slots.get? name with
    | some index => progress.write (dialect.placeholder index)
    | none =>
      { progress.append dialect value with
        slots := progress.slots.insert name (progress.values.length + 1) }
  else progress.append dialect value

def take (dialect : Dialect) (parameters : Parameters) (progress : Progress) (token : Token) :
    Except Error Progress :=
  match token.parameter? with
  | none => .ok (progress.write (String.ofList token.source))
  | some name =>
    match parameters.value? name with
    | none => .error (.missingParameter name)
    | some value => .ok (progress.occurrence dialect name value)

end Progress

def scan (dialect : Dialect) (parameters : Parameters) :
    List Char → Progress → Except Error Progress
  | [], progress => .ok progress
  | c :: cs, progress => do
    let progress ← progress.take dialect parameters (Token.next dialect c cs).1
    scan dialect parameters (Token.next dialect c cs).2 progress
termination_by cs => cs.length
decreasing_by exact Nat.lt_succ_of_le (Token.length_next_le dialect c cs)

def bind (sql : String) (parameters : Parameters) (dialect : Dialect) : Except Error BoundQuery := do
  let progress ← scan dialect parameters sql.toList {}
  return ⟨progress.sql, progress.values⟩

end Binding

end SelectQuery
