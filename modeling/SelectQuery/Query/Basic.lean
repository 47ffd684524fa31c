import SelectQuery.Query.Draft

namespace SelectQuery

inductive Mode
  | rows
  | count
  | existence
deriving DecidableEq

namespace Mode

def all : List Mode := [rows, count, existence]

def code : Mode → String
  | rows => "normal"
  | count => "count"
  | existence => "exists"

def ofCode? (code : String) : Option Mode := all.find? (·.code == code)

end Mode

structure Query where
  sql : String
  parameters : Parameters

namespace Query

def toJson (query : Query) : Json :=
  .object [("sql", .string query.sql), ("params", query.parameters.toJson)]

end Query

namespace Specification

/-- The rows of the table itself: joins and WHERE, and no other clause. -/
def tableRows (s : Specification) (selected : String) : Except Error String := do
  s.requireTable
  return "SELECT " ++ selected ++ " FROM " ++ s.table ++ s.filters

def rowsQuery (s : Specification) (dialect : Dialect) : Except Error Query := do
  let draft ← s.draft
  return ⟨Segment.renderAll dialect draft.segments, draft.parameters⟩

def countQuery (s : Specification) : Except Error Query := do
  return ⟨← s.tableRows "COUNT(*)", s.parameters⟩

def existenceQuery (s : Specification) (dialect : Dialect) : Except Error Query := do
  return ⟨dialect.existence (← s.tableRows "1"), s.parameters⟩

def compile (s : Specification) (dialect : Dialect) (mode : Mode) : Except Error Query := do
  s.validate
  match mode with
  | .rows => s.rowsQuery dialect
  | .count => s.countQuery
  | .existence => s.existenceQuery dialect

end Specification

end SelectQuery
