import SelectQuery.Database.ColumnType
import SelectQuery.Sql.Evaluation

namespace SelectQuery

structure Database where
  tables : List (String × Sql.Relation) := []

namespace Database

open Sql

def addTable (db : Database) (name : String) (columns : List Column) (rows : List Row) : Database :=
  ⟨db.tables ++ [(name, ⟨columns, rows.map (columns.zipWith Affinity.store)⟩)]⟩

/-- The rows of a query; its levels of nesting are no more than the characters of its text. -/
def select (db : Database) (levels : Nat) (q : Select) : Except Problem Relation :=
  (selectOutcome db.tables levels .whole [] q).bind id

def single (name : String) (cell : Cell) : Relation := ⟨[⟨name, none⟩], [[cell]]⟩

def putRows (name : String) (rows : List Row) : List (String × Relation) → List (String × Relation)
  | [] => []
  | (n, r) :: rest =>
    if sameName n name then (n, { r with rows }) :: rest else (n, r) :: putRows name rows rest

def delete (db : Database) (name : String) (filter : Option (Condition ColumnName)) :
    Except Problem (Nat × Database) := do
  let r ←
    match db.tables.find? (sameName name ·.1) with
    | none => .error (.noSuchTable name)
    | some (_, r) => .ok r
  let filter ← resolveFilter ⟨some name, r.columns⟩ [] filter
  let kept :=
    match filter with
    | none => []
    | some c => r.rows.filter fun row => c.holds row != some true
  return (r.rows.length - kept.length, ⟨putRows name kept db.tables⟩)

structure Result where
  found : Relation
  changed : Nat
  after : Database

def run (db : Database) (levels : Nat) : Statement → Except Problem Result
  | .rows q => do return ⟨← db.select levels q, 0, db⟩
  | .existence q => do
    let r ← db.select levels q
    return ⟨single "EXISTS" (.int (if r.rows.isEmpty then 0 else 1)), 0, db⟩
  | .delete name filter => do
    let (changed, after) ← db.delete name filter
    return ⟨⟨[], []⟩, changed, after⟩

def execute (db : Database) (sql : String) (values : List Cell) : Except Problem Result := do
  db.run (sql.length + 1) (← Statement.read sql values)

def readColumn? : Json → Option Column
  | .array [.string name, .string declared] => some ⟨name, some declared⟩
  | _ => none

def readRow? (j : Json) : Option Row := do
  return (← j.asArray?).map fun value => Cell.ofValue (.ofJson value)

def addTable? (db : Database) (j : Json) : Option Database := do
  let members ← j.asObject?
  return db.addTable (← Json.required members "name" Json.asString?)
    (← Json.required members "columns" (Json.list readColumn?))
    (← Json.required members "rows" (Json.list readRow?))

def ofJson? (j : Json) : Option Database := do (← j.asArray?).foldlM addTable? {}

end Database

end SelectQuery
