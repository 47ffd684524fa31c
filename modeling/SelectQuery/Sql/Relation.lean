import SelectQuery.Value

namespace SelectQuery.Sql

inductive Cell
  | null
  | int (i : Int64)
  | real (x : Binary64)
  | text (s : String)
deriving DecidableEq

namespace Cell

def ofValue : Value → Cell
  | .null => .null
  | .bool b => .int (if b then 1 else 0)
  | .int i => .int i
  | .float x => if x.isNaN then .null else .real x
  | .text s => .text s
  | .json j => .text j.render

def isNull : Cell → Bool
  | .null => true
  | _ => false

def rank : Cell → Nat
  | .null => 0
  | .int _ | .real _ => 1
  | .text _ => 2

def units : Cell → Int
  | .int i => i.toInt * Binary64.one
  | .real x => x.units
  | _ => 0

def characters : Cell → String
  | .text s => s
  | _ => ""

def order (a b : Cell) : Ordering :=
  (compare a.rank b.rank).then
    ((compare a.units b.units).then (compare a.characters b.characters))

def orderAll : List Cell → List Cell → Ordering
  | [], [] => .eq
  | [], _ => .lt
  | _, [] => .gt
  | a :: as, b :: bs => (a.order b).then (orderAll as bs)

end Cell

inductive Comparison
  | equal
  | unequal
  | less
  | lessOrEqual
  | greater
  | greaterOrEqual
deriving DecidableEq

namespace Comparison

def accepts : Comparison → Ordering → Bool
  | equal, o => o == .eq
  | unequal, o => o != .eq
  | less, o => o == .lt
  | lessOrEqual, o => o != .gt
  | greater, o => o == .gt
  | greaterOrEqual, o => o != .lt

def holds (c : Comparison) (a b : Cell) : Option Bool :=
  if a.isNull || b.isNull then none else some (c.accepts (a.order b))

end Comparison

def both : Option Bool → Option Bool → Option Bool
  | some false, _ | _, some false => some false
  | some true, some true => some true
  | _, _ => none

def either : Option Bool → Option Bool → Option Bool
  | some true, _ | _, some true => some true
  | some false, some false => some false
  | _, _ => none

structure Column where
  name : String
  /-- The type in the definition of the table that the column comes from. -/
  declared : Option String
deriving DecidableEq

abbrev Row := List Cell

structure Relation where
  columns : List Column
  rows : List Row

def distinctBy {α : Type} (row : α → Row) : List α → List α
  | [] => []
  | a :: as =>
    a :: (distinctBy row as).filter fun b => Cell.orderAll (row a) (row b) != .eq

structure SortCell where
  cell : Cell
  descending : Bool

namespace SortCell

def order (a b : SortCell) : Ordering :=
  if a.descending then b.cell.order a.cell else a.cell.order b.cell

def orderAll : List SortCell → List SortCell → Ordering
  | a :: as, b :: bs => (order a b).then (orderAll as bs)
  | _, _ => .eq

end SortCell

def sortBy {α : Type} (keys : α → List SortCell) (as : List α) : List α :=
  as.mergeSort fun a b => SortCell.orderAll (keys a) (keys b) != .gt

end SelectQuery.Sql
