import SelectQuery.Binding.Basic
import SelectQuery.Database.Basic
import SelectQuery.Database.Record
import SelectQuery.Query.Basic

namespace SelectQuery

/-- What carries out a statement, with the values for its marks, and hands on what it finds. -/
def Engine := String → List Sql.Cell → Except Sql.Problem Sql.Relation

namespace Engine

def dialect : Dialect := .sqlite

def perform (engine : Engine) (query : Query) : Except Error Sql.Relation := do
  let bound ← Binding.bind query.sql query.parameters dialect
  (engine bound.sql (bound.values.map Sql.Cell.ofValue)).mapError fun p => .execution p.message

def fetchQuery (engine : Engine) (query : Query) : Except Error (List Record) := do
  let r ← engine.perform query
  (Record.ofRelation r).mapError fun u => .execution u.message

def fetchRecords (engine : Engine) (s : Specification) : Except Error (List Record) := do
  engine.fetchQuery (← s.compile dialect .rows)

def fetchAll {α : Type} (read? : Record → Option α) (engine : Engine) (s : Specification) :
    Except Error (List α) := do
  match (← engine.fetchRecords s).mapM read? with
  | none => .error (.decoding "a row does not fit")
  | some values => .ok values

def noRow : Error :=
  .execution "no rows returned by a query that expected to return at least one row"

def scalar (r : Sql.Relation) : Except Error Int64 :=
  match r.rows with
  | [] => .error noRow
  | (.int i :: _) :: _ => .ok i
  | _ => .error (.decoding "no whole number")

def count (engine : Engine) (s : Specification) : Except Error Int64 := do
  scalar (← engine.perform (← s.compile dialect .count))

def holdsAny (engine : Engine) (s : Specification) : Except Error Bool := do
  return (← scalar (← engine.perform (← s.compile dialect .existence))) == 1

end Engine

namespace Database

def dialect : Dialect := Engine.dialect

def engine (db : Database) : Engine := fun sql values => (db.execute sql values).map (·.found)

def fetchQuery (db : Database) : Query → Except Error (List Record) := db.engine.fetchQuery

def fetchRecords (db : Database) : Specification → Except Error (List Record) :=
  db.engine.fetchRecords

def fetchAll {α : Type} (read? : Record → Option α) (db : Database) :
    Specification → Except Error (List α) :=
  db.engine.fetchAll read?

def count (db : Database) : Specification → Except Error Int64 := db.engine.count

def holdsAny (db : Database) : Specification → Except Error Bool := db.engine.holdsAny

def executeRaw (db : Database) (sql : String) : Except Error (Nat × Database) :=
  match db.execute sql [] with
  | .error problem => .error (.execution problem.message)
  | .ok result => .ok (result.changed, result.after)

end Database

end SelectQuery
