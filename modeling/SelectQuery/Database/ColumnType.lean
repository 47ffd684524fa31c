import SelectQuery.Sql.Relation

namespace SelectQuery

inductive ColumnType
  | integer
  | float
  | text
  /-- A type, under the name for it, that nothing reads. -/
  | unreadable (name : String)
deriving DecidableEq

namespace ColumnType

def mentions (part : List Char) : List Char → Bool
  | [] => part.isEmpty
  | c :: cs => part.isPrefixOf (c :: cs) || mentions part cs

def lowercase (declared : String) : List Char := declared.toList.map Char.toLower

def mentionsAny (parts : List String) (cs : List Char) : Bool :=
  parts.any fun part => mentions part.toList cs

def ofDeclared (declared : String) : ColumnType :=
  let cs := lowercase declared
  let name := String.ofList cs
  if name ∈ ["boolean", "bool"] then .unreadable "Bool"
  else if name = "date" then .unreadable "Date"
  else if name = "time" then .unreadable "Time"
  else if name ∈ ["datetime", "timestamp"] then .unreadable "Datetime"
  else if mentionsAny ["int"] cs then .integer
  else if mentionsAny ["char", "clob", "text", "blob"] cs then .text
  else if mentionsAny ["real", "floa", "doub"] cs then .float
  else .text

def ofColumn (column : Sql.Column) : ColumnType :=
  (column.declared.map ofDeclared).getD .text

end ColumnType

inductive Affinity
  | whole
  | fraction
  | unchanged

namespace Affinity

def ofDeclared (declared : String) : Affinity :=
  let cs := ColumnType.lowercase declared
  if ColumnType.mentionsAny ["int"] cs then .whole
  else if ColumnType.mentionsAny ["char", "clob", "text", "blob"] cs || cs.isEmpty then .unchanged
  else if ColumnType.mentionsAny ["real", "floa", "doub"] cs then .fraction
  else .whole

def whole? (x : Binary64) : Option Int64 :=
  let i := x.units / Binary64.one
  if x.units % Binary64.one = 0 && -0x8000000000000000 < i && i < 0x7fffffffffffffff then
    some (Int64.ofInt i)
  else none

def apply : Affinity → Sql.Cell → Sql.Cell
  | .whole, .real x => ((whole? x).map Sql.Cell.int).getD (.real x)
  | .fraction, .int i => .real (.ofInt i.toInt)
  | .fraction, .real x => .real (if x.isZero then .zero false else x)
  | _, cell => cell

def store (column : Sql.Column) (cell : Sql.Cell) : Sql.Cell :=
  match column.declared with
  | none => cell
  | some declared => (ofDeclared declared).apply cell

end Affinity

end SelectQuery
