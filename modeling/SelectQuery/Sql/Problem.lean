import SelectQuery.Text.Basic

namespace SelectQuery.Sql

inductive Problem
  | noSuchTable (name : String)
  | noSuchColumn (name : String)
  | circularReference (name : String)
  | unevenUnion (all : Bool)
  | unmatchedKey (position : Nat)
  | keyOutOfRange (position columns : Nat)
  | unexpected (text : String)
  | incomplete

namespace Problem

def ordinal (n : Nat) : String :=
  let ending :=
    if n % 100 / 10 = 1 then "th"
    else match n % 10 with
      | 1 => "st"
      | 2 => "nd"
      | 3 => "rd"
      | _ => "th"
  Text.ofNat n ++ ending

def reason : Problem → String
  | noSuchTable name => "no such table: " ++ name
  | noSuchColumn name => "no such column: " ++ name
  | circularReference name => "circular reference: " ++ name
  | unevenUnion all =>
    "SELECTs to the left and right of " ++ (if all then "UNION ALL" else "UNION") ++
      " do not have the same number of result columns"
  | unmatchedKey position =>
    ordinal position ++ " ORDER BY term does not match any column in the result set"
  | keyOutOfRange position columns =>
    ordinal position ++ " ORDER BY term out of range - should be between 1 and " ++
      Text.ofNat columns
  | unexpected text => "near \"" ++ text ++ "\": syntax error"
  | incomplete => "incomplete input"

end Problem

def reported (code : Nat) (reason : String) : String :=
  "error returned from database: (code: " ++ Text.ofNat code ++ ") " ++ reason

def Problem.message (p : Problem) : String := reported 1 p.reason

end SelectQuery.Sql
