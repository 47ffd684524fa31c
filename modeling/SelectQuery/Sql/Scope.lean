import SelectQuery.Sql.Problem
import SelectQuery.Sql.Reader
import SelectQuery.Sql.Relation

namespace SelectQuery.Sql

/-- The common tables of the queries around, the nearest first. One that is being put in place has
no query. -/
abbrev Scope := List (List (String × Option Select))

namespace Scope

def hide (name : String) : List (String × Option Select) → List (String × Option Select)
  | [] => []
  | (n, q) :: rest => if sameName n name then (n, none) :: rest else (n, q) :: hide name rest

def find? (name : String) : Scope → Option (Option Select × Scope)
  | [] => none
  | ctes :: outer =>
    match ctes.find? (sameName name ·.1) with
    | some (_, q) => some (q, hide name ctes :: outer)
    | none => find? name outer

end Scope

structure Columns where
  label : Option String
  columns : List Column

namespace Columns

def isLabelled (c : Columns) (table : String) : Bool := c.label.any (sameName table)

def find? (c : Columns) (name : ColumnName) : Option Nat :=
  if name.table.all c.isLabelled then c.columns.findIdx? (sameName name.name ·.name) else none

def get (c : Columns) (name : ColumnName) : Except Problem Nat :=
  match c.find? name with
  | none => .error (.noSuchColumn name.text)
  | some i => .ok i

end Columns

def unnumbered (name : String) : String :=
  match name.toList.reverse.dropWhile Text.isAsciiDigit with
  | ':' :: rest => if rest.isEmpty then name else String.ofList rest.reverse
  | _ => name

def unused (taken : List String) (name : String) (number : Nat) : Nat → String
  | 0 => name
  | fuel + 1 =>
    if taken.any (sameName name) then
      unused taken (unnumbered name ++ ":" ++ Text.ofNat number) (number + 1) fuel
    else name

def numbered (taken : List String) : List Column → List Column
  | [] => []
  | c :: cs =>
    let name := unused taken c.name 1 (taken.length + 1)
    { c with name } :: numbered (name :: taken) cs

end SelectQuery.Sql
