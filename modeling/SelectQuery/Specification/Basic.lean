import SelectQuery.Parameters

namespace SelectQuery

structure UnionMember (Q : Type) where
  query : Q
  /-- Whether equal rows stay. -/
  all : Bool

structure DerivedTable (Q : Type) where
  query : Q
  label : String

structure CommonTable (Q : Type) where
  name : String
  query : Q

@[ext]
structure Specification where
  table : String := ""
  /-- For information only. -/
  primaryKey : String := ""
  projection : String := ""
  distinct : Bool := false
  /-- Joins, each with its keywords and a space in front. -/
  joins : String := ""
  filter : String := ""
  grouping : String := ""
  groupFilter : String := ""
  ordering : String := ""
  skip : Option UInt64 := none
  take : Option UInt64 := none
  parameters : Parameters := .empty
  unions : List (UnionMember Specification) := []
  source : Option (DerivedTable Specification) := none
  ctes : List (CommonTable Specification) := []

namespace Specification

def paging (s : Specification) : Option (UInt64 × UInt64) := do
  let skip ← s.skip
  let take ← s.take
  return (skip, take)

mutual

def same : Specification → Specification → Bool
  | ⟨table, key, projection, distinct, joins, filter, grouping, groupFilter, ordering, skip, take,
      parameters, unions, source, ctes⟩,
    ⟨table', key', projection', distinct', joins', filter', grouping', groupFilter', ordering',
      skip', take', parameters', unions', source', ctes'⟩ =>
    table == table' && key == key' && projection == projection' && distinct == distinct' &&
      joins == joins' && filter == filter' && grouping == grouping' &&
      groupFilter == groupFilter' && ordering == ordering' && skip == skip' && take == take' &&
      parameters.same parameters' && sameMembers unions unions' && sameSource source source' &&
      sameCtes ctes ctes'
termination_by structural s => s

def sameMembers : List (UnionMember Specification) → List (UnionMember Specification) → Bool
  | [], [] => true
  | ⟨q, all⟩ :: ms, ⟨q', all'⟩ :: ms' => q.same q' && all == all' && sameMembers ms ms'
  | _, _ => false
termination_by structural ms => ms

def sameSource : Option (DerivedTable Specification) → Option (DerivedTable Specification) → Bool
  | none, none => true
  | some ⟨q, label⟩, some ⟨q', label'⟩ => q.same q' && label == label'
  | _, _ => false
termination_by structural source => source

def sameCtes : List (CommonTable Specification) → List (CommonTable Specification) → Bool
  | [], [] => true
  | ⟨name, q⟩ :: cs, ⟨name', q'⟩ :: cs' => name == name' && q.same q' && sameCtes cs cs'
  | _, _ => false
termination_by structural cs => cs

end

end Specification

end SelectQuery
