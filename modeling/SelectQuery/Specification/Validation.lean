import SelectQuery.Specification.Basic

namespace SelectQuery.Specification

def checkClauses : List String → Except Error Unit
  | [] => .ok ()
  | clause :: rest => do
    if !clause.isEmpty then requireText clause "clause"
    checkClauses rest

def signedLimit : Nat := 0x8000000000000000

def tooLarge (name : String) : Error := .outOfRange name (signedLimit - 1) "too large"

def checkPaging : Option UInt64 → Option UInt64 → Except Error Unit
  | some skip, some take =>
    if take = 0 then .error (.outOfRange "take" 0 "must be positive")
    else if signedLimit ≤ skip.toNat then .error (tooLarge "skip")
    else if signedLimit ≤ take.toNat then .error (tooLarge "take")
    else .ok ()
  | none, none => .ok ()
  | some _, none => .error (.invalidArgument "take" "skip is set without take")
  | none, some _ => .error (.invalidArgument "skip" "take is set without skip")

mutual

/-- The first rule that is broken, if any. The name of the table is not looked at. -/
def validate : Specification → Except Error Unit
  | ⟨_, _, projection, _, joins, filter, grouping, groupFilter, ordering, skip, take, _, unions,
      source, ctes⟩ => do
    checkClauses [projection, joins, filter, grouping, groupFilter, ordering]
    checkPaging skip take
    validateMembers unions
    validateSource source
    validateCtes ctes

def validateMembers : List (UnionMember Specification) → Except Error Unit
  | [] => .ok ()
  | member :: members => do
    validate member.query
    validateMembers members

def validateSource : Option (DerivedTable Specification) → Except Error Unit
  | none => .ok ()
  | some source => do
    requireText source.label "alias"
    validate source.query

def validateCtes : List (CommonTable Specification) → Except Error Unit
  | [] => .ok ()
  | cte :: ctes => do
    requireText cte.name "name"
    validate cte.query
    validateCtes ctes

end

end SelectQuery.Specification
