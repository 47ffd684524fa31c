import SelectQuery.Database.ColumnType
import SelectQuery.NameMap

namespace SelectQuery

/-- Of two columns with one name the later one counts. -/
abbrev Record := NameMap Json

namespace Record

open Sql

def truncated (x : Binary64) : Int := x.units.tdiv Binary64.one

def clamped (i : Int) : Int64 := .ofInt (max (-0x8000000000000000) (min 0x7fffffffffffffff i))

/-- Whole numbers are cut down to the low 32 bits. -/
def readInteger : Cell → Json
  | .null => .null
  | .int i => .ofInt i.toInt32.toInt
  | .real x => .ofInt (clamped (truncated x)).toInt32.toInt
  | .text _ => .ofInt 0

def readFloat : Cell → Json
  | .real x => if x.isFinite then .float x else .null
  | .int i => .float (.ofInt i.toInt)
  | _ => .null

def readText : Cell → Json
  | .text s => .string s
  | _ => .null

structure Unreadable where
  column : String
  type : String

def Unreadable.message (u : Unreadable) : String :=
  "error occurred while decoding column " ++ u.column ++
    ": error in Any driver mapping: Any driver does not support the SQLite type SqliteTypeInfo(" ++
    u.type ++ ")"

def readCell (column : Column) (cell : Cell) : Except Unreadable Json :=
  match ColumnType.ofColumn column with
  | .integer => .ok (readInteger cell)
  | .float => .ok (readFloat cell)
  | .text => .ok (readText cell)
  | .unreadable type => .error ⟨column.name, type⟩

def readCells : List Column → Row → Except Unreadable (List (String × Json))
  | [], _ => .ok []
  | column :: columns, row => do
    let j ← readCell column (row.headD .null)
    return (column.name, j) :: (← readCells columns row.tail)

def ofRow (columns : List Column) (row : Row) : Except Unreadable Record := do
  return .ofList (← readCells columns row)

/-- A type that nothing reads shows once there is a row. -/
def ofRelation (r : Relation) : Except Unreadable (List Record) := r.rows.mapM (ofRow r.columns)

def toJson (record : Record) : Json := .object record.entries

end Record

end SelectQuery
