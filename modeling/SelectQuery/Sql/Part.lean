import SelectQuery.Sql.Scope

namespace SelectQuery.Sql

structure Output where
  column : Column
  label : Option String
  operand : Operand Nat

namespace Operand

def resolve (columns : Columns) : Operand ColumnName → Except Problem (Operand Nat)
  | .constant cell => .ok (.constant cell)
  | .column c => do return .column (← columns.get c)

def value (row : Row) : Operand Nat → Cell
  | .constant cell => cell
  | .column i => row.getD i .null

end Operand

def resolveOrLabel (columns : Columns) (outputs : List Output) :
    Operand ColumnName → Except Problem (Operand Nat)
  | .constant cell => .ok (.constant cell)
  | .column c =>
    let isMeant (o : Output) := c.table.isNone && o.label.any (sameName c.name)
    match columns.find? c, outputs.find? isMeant with
    | some i, _ => .ok (.column i)
    | none, some o => .ok o.operand
    | none, none => .error (.noSuchColumn c.text)

namespace Condition

/-- Looks up the columns from left to right. A test for a missing value does not end the search: of
tests in a row the last unknown column is reported, and whatever else comes next reports it. -/
def resolve (f : Operand ColumnName → Except Problem (Operand Nat)) (pending : Option Problem) :
    Condition ColumnName → Except Problem (Option Problem × Condition Nat)
  | .isNull o =>
    match f o with
    | .ok o => .ok (pending, .isNull o)
    | .error problem => .ok (some problem, .isNull (.constant .null))
  | .isNotNull o =>
    match f o with
    | .ok o => .ok (pending, .isNotNull o)
    | .error problem => .ok (some problem, .isNotNull (.constant .null))
  | .compare c left right => do
    reported pending
    return (none, .compare c (← f left) (← f right))
  | .and p q => do
    reported pending
    let (pending, p) ← resolve f none p
    let (pending, q) ← resolve f pending q
    return (pending, .and p q)
  | .or p q => do
    reported pending
    let (pending, p) ← resolve f none p
    let (pending, q) ← resolve f pending q
    return (pending, .or p q)
where
  reported : Option Problem → Except Problem Unit
    | some problem => .error problem
    | none => .ok ()

def resolveAll (f : Operand ColumnName → Except Problem (Operand Nat))
    (c : Condition ColumnName) : Except Problem (Condition Nat) := do
  let (pending, c) ← resolve f none c
  resolve.reported pending
  return c

def holds (row : Row) : Condition Nat → Option Bool
  | .compare c left right => c.holds (left.value row) (right.value row)
  | .isNull o => some (o.value row).isNull
  | .isNotNull o => some !(o.value row).isNull
  | .and p q => both (p.holds row) (q.holds row)
  | .or p q => either (p.holds row) (q.holds row)

end Condition

def accepted (filter : Option (Condition Nat)) (rows : List Row) : List Row :=
  match filter with
  | none => rows
  | some c => rows.filter fun row => c.holds row == some true

def resolveFilter (columns : Columns) (outputs : List Output)
    (filter : Option (Condition ColumnName)) : Except Problem (Option (Condition Nat)) :=
  match filter with
  | none => .ok none
  | some c => do return some (← c.resolveAll (resolveOrLabel columns outputs))

structure Part where
  source : Columns
  outputs : List Output
  rows : List (Row × Row)

namespace Part

def itemOutputs (columns : Columns) : Item → Except Problem (List Output)
  | .all => .ok (columns.columns.mapIdx fun i c => ⟨c, none, .column i⟩)
  | .operand o label written => do
    let o ← o.resolve columns
    let column : Column :=
      match o with
      | .constant _ => ⟨label.getD written, none⟩
      | .column i =>
        let c := columns.columns.getD i ⟨written, none⟩
        { c with name := label.getD c.name }
    return [⟨column, label, o⟩]

def outputsOf (columns : Columns) (items : List Item) : Except Problem (List Output) := do
  return (← items.mapM (itemOutputs columns)).flatten

def ofItems (source : Columns) (rows : List Row) (distinct : Bool) (items : List Item)
    (filter : Option (Condition ColumnName)) : Except Problem Part := do
  let outputs ← outputsOf source items
  let filter ← resolveFilter source outputs filter
  let made := (accepted filter rows).map fun row => (outputs.map (·.operand.value row), row)
  return ⟨source, outputs, if distinct then distinctBy Prod.fst made else made⟩

def ofCount (source : Columns) (rows : List Row) (label : String)
    (filter : Option (Condition ColumnName)) : Except Problem Part := do
  let filter ← resolveFilter source [] filter
  let count := Cell.int (Int64.ofNat (accepted filter rows).length)
  return ⟨source, [⟨⟨label, none⟩, some label, .constant count⟩], [([count], [])]⟩

def ofCore (core : Core Select) (label : Option String) (source : Relation) :
    Except Problem Part :=
  let columns : Columns := ⟨label, source.columns⟩
  match core.projection with
  | .items items => ofItems columns source.rows core.distinct items core.filter
  | .count name => ofCount columns source.rows name core.filter

inductive KeyCell
  | made (i : Nat)
  | source (i : Nat)

def position (part : Part) (place n : Nat) : Except Problem Nat :=
  if 1 ≤ n && n ≤ part.outputs.length then .ok (n - 1)
  else .error (.keyOutOfRange place part.outputs.length)

def labelled? (part : Part) (c : ColumnName) : Option Nat :=
  if c.table.isNone then part.outputs.findIdx? (·.label.any (sameName c.name)) else none

def keyCell (part : Part) (place : Nat) : KeyTarget → Except Problem KeyCell
  | .position n => do return .made (← part.position place n)
  | .column c =>
    match part.labelled? c with
    | some i => .ok (.made i)
    | none => do return .source (← part.source.get c)

def KeyCell.value (rows : Row × Row) : KeyCell → Cell
  | made i => rows.1.getD i .null
  | source i => rows.2.getD i .null

def isColumn (i : Nat) : Operand Nat → Bool
  | .column j => i == j
  | .constant _ => false

def matching? (part : Part) (c : ColumnName) : Option Nat :=
  part.labelled? c <|> do
    let i ← part.source.find? c
    part.outputs.findIdx? fun o => isColumn i o.operand

def relation (part : Part) : Relation := ⟨part.outputs.map (·.column), part.rows.map Prod.fst⟩

/-- The rows in the order of some keys, if it is kept. The keys must have a meaning even if not. -/
def sorted (part : Part) (ordered : Bool) (keys : List Key) : Except Problem Relation := do
  let cells ← (keys.zipIdx 1).mapM fun (key, place) => do
    return (← part.keyCell place key.target, key.descending)
  let sortCells (rows : Row × Row) := cells.map fun (k, descending) => ⟨k.value rows, descending⟩
  return { part with rows := if ordered then sortBy sortCells part.rows else part.rows }.relation

end Part

end SelectQuery.Sql
