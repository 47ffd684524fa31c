import SelectQuery.Sql.Relation

namespace SelectQuery.Sql

structure ColumnName where
  table : Option String
  name : String

def ColumnName.text (c : ColumnName) : String :=
  match c.table with
  | none => c.name
  | some table => table ++ "." ++ c.name

inductive Operand (C : Type)
  | column (c : C)
  | constant (cell : Cell)

inductive Condition (C : Type)
  | compare (comparison : Comparison) (left right : Operand C)
  | isNull (operand : Operand C)
  | isNotNull (operand : Operand C)
  | and (p q : Condition C)
  | or (p q : Condition C)

inductive Item
  | all
  | operand (operand : Operand ColumnName) (label : Option String) (written : String)

inductive Projection
  | items (items : List Item)
  | count (label : String)

inductive KeyTarget
  | position (n : Nat)
  | column (c : ColumnName)

structure Key where
  target : KeyTarget
  descending : Bool

inductive Source (Q : Type)
  | table (name : String) (label : String)
  | query (query : Q) (label : Option String)

structure Core (Q : Type) where
  distinct : Bool
  projection : Projection
  source : Source Q
  filter : Option (Condition ColumnName)

structure Paging where
  skip : Nat
  take : Nat

structure Select where
  ctes : List (String × Select)
  first : Core Select
  others : List (Bool × Core Select)
  ordering : List Key
  paging : Option Paging

inductive Statement
  | rows (query : Select)
  | existence (query : Select)
  | delete (table : String) (filter : Option (Condition ColumnName))

end SelectQuery.Sql
