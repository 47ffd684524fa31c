import SelectQuery.Specification.Basic

namespace SelectQuery

inductive JoinKind
  | inner
  | left
  | right
  | full
  | cross
deriving DecidableEq

namespace JoinKind

def all : List JoinKind := [inner, left, right, full, cross]

def code : JoinKind → String
  | inner => "inner"
  | left => "left"
  | right => "right"
  | full => "full"
  | cross => "cross"

def ofCode? (code : String) : Option JoinKind := all.find? (·.code == code)

def keyword : JoinKind → String
  | inner => "INNER JOIN"
  | left => "LEFT JOIN"
  | right => "RIGHT JOIN"
  | full => "FULL JOIN"
  | cross => "CROSS JOIN"

end JoinKind

structure Entity where
  table : String
  primaryKey : String := ""

namespace Specification

def ofTable (table : String) : Specification := { table }

def extend (clauses separator clause : String) : String :=
  if clauses.isEmpty then clause else clauses ++ separator ++ clause

def setTable (s : Specification) (table : String) : Specification := { s with table }

def setPrimaryKey (s : Specification) (primaryKey : String) : Specification :=
  { s with primaryKey }

def ofEntity (entity : Entity) : Specification :=
  (ofTable entity.table).setPrimaryKey entity.primaryKey

def setDistinct (s : Specification) : Specification := { s with distinct := true }

def setSelect (s : Specification) (clause : String) : Except Error Specification := do
  requireText clause "clause"
  return { s with projection := clause }

def addWhere (s : Specification) (clause : String) : Except Error Specification := do
  requireText clause "clause"
  return { s with filter := extend s.filter " AND " clause }

/-- No parentheses are added. -/
def addWhereOr (s : Specification) (clause : String) : Except Error Specification := do
  requireText clause "clause"
  return { s with filter := extend s.filter " OR " clause }

def addRawJoin (s : Specification) (clause : String) : Except Error Specification := do
  requireText clause "clause"
  return { s with joins := s.joins ++ " " ++ clause }

def addJoin (s : Specification) (kind : JoinKind) (clause : String) :
    Except Error Specification := do
  requireText clause "clause"
  return { s with joins := s.joins ++ " " ++ kind.keyword ++ " " ++ clause }

def addGroupBy (s : Specification) (clause : String) : Except Error Specification := do
  requireText clause "clause"
  return { s with grouping := extend s.grouping ", " clause }

def addHaving (s : Specification) (clause : String) : Except Error Specification := do
  requireText clause "clause"
  return { s with groupFilter := extend s.groupFilter " AND " clause }

def addOrder (s : Specification) (clause : String) : Except Error Specification := do
  requireText clause "clause"
  return { s with ordering := extend s.ordering ", " clause }

def setPaging (s : Specification) (skip take : Int64) : Except Error Specification :=
  if skip < 0 then .error (.outOfRange "skip" skip.toInt "must be non-negative")
  else if take ≤ 0 then .error (.outOfRange "take" take.toInt "must be positive")
  else .ok { s with skip := some skip.toUInt64, take := some take.toUInt64 }

def withParam (s : Specification) (name : String) (value : Value) : Except Error Specification := do
  return { s with parameters := ← s.parameters.add name value }

def withParams (s : Specification) (object : Json) : Except Error Specification :=
  match s.parameters.mergeObject object with
  | .ok parameters => .ok { s with parameters }
  | .error stopped => .error stopped.error

def addUnion (s : Specification) (query : Specification) (all : Bool) : Specification :=
  { s with unions := s.unions ++ [⟨query, all⟩] }

def setSource (s : Specification) (query : Specification) (label : String) :
    Except Error Specification := do
  requireText label "alias"
  return { s with source := some ⟨query, label⟩ }

def addCte (s : Specification) (name : String) (query : Specification) :
    Except Error Specification := do
  requireText name "name"
  return { s with ctes := s.ctes ++ [⟨name, query⟩] }

inductive Call
  | setTable (table : String)
  | setPrimaryKey (key : String)
  | setDistinct
  | setSelect (clause : String)
  | addWhere (clause : String)
  | addWhereOr (clause : String)
  | addWhereWith (clause : String) (object : Json)
  | addWhereOrWith (clause : String) (object : Json)
  | addRawJoin (clause : String)
  | addJoin (kind : JoinKind) (clause : String)
  | addGroupBy (clause : String)
  | addHaving (clause : String)
  | addHavingWith (clause : String) (object : Json)
  | addOrder (clause : String)
  | setPaging (skip take : Int64)
  | withParam (name : String) (value : Value)
  | withParams (object : Json)
  | addUnion (query : Specification) (all : Bool)
  | setSource (query : Specification) (label : String)
  | addCte (name : String) (query : Specification)

def Call.nested? : Call → Option Specification
  | addUnion query _ | setSource query _ | addCte _ query => some query
  | _ => none

def apply (s : Specification) : Call → Except Error Specification
  | .setTable table => .ok (s.setTable table)
  | .setPrimaryKey key => .ok (s.setPrimaryKey key)
  | .setDistinct => .ok s.setDistinct
  | .setSelect clause => s.setSelect clause
  | .addWhere clause => s.addWhere clause
  | .addWhereOr clause => s.addWhereOr clause
  | .addWhereWith clause object => do (← s.addWhere clause).withParams object
  | .addWhereOrWith clause object => do (← s.addWhereOr clause).withParams object
  | .addRawJoin clause => s.addRawJoin clause
  | .addJoin kind clause => s.addJoin kind clause
  | .addGroupBy clause => s.addGroupBy clause
  | .addHaving clause => s.addHaving clause
  | .addHavingWith clause object => do (← s.addHaving clause).withParams object
  | .addOrder clause => s.addOrder clause
  | .setPaging skip take => s.setPaging skip take
  | .withParam name value => s.withParam name value
  | .withParams object => s.withParams object
  | .addUnion query all => .ok (s.addUnion query all)
  | .setSource query label => s.setSource query label
  | .addCte name query => s.addCte name query

end Specification

end SelectQuery
