import SelectQuery.Dialect.Basic
import SelectQuery.Specification.Validation

/-! Drafts: the text of a query with its paging still to be written in some dialect. -/

namespace SelectQuery

inductive Segment
  | text (s : String)
  | paging (skip take : UInt64)

namespace Segment

def render (dialect : Dialect) : Segment → String
  | text s => s
  | paging skip take => dialect.paging skip take

def renderAll (dialect : Dialect) : List Segment → String
  | [] => ""
  | segment :: segments => segment.render dialect ++ renderAll dialect segments

end Segment

structure Draft where
  segments : List Segment
  parameters : Parameters

structure Outline where
  members : List (UnionMember Specification × Outline)
  source : Option (DerivedTable Specification × Except Error Draft)
  ctes : List (CommonTable Specification × Except Error Draft)

namespace Specification

def requireTable (s : Specification) : Except Error Unit :=
  if Text.isBlank s.table then
    .error (.invalidArgument "table_name" "specification has no table name")
  else .ok ()

def merge (parameters nested : Parameters) : Except Error Parameters :=
  (parameters.mergeNested nested).mapError Parameters.Stopped.error

def clause (keyword clause : String) : String :=
  if Text.isBlank clause then "" else keyword ++ clause

def joinText (joins : String) : String :=
  if Text.isBlank joins then ""
  else if (joins.toList.head?.map Text.isSpace).getD false then joins
  else " " ++ joins

def filters (s : Specification) : String := joinText s.joins ++ clause " WHERE " s.filter

def selection (s : Specification) : String :=
  (if s.distinct then "SELECT DISTINCT " else "SELECT ") ++
    (if Text.isBlank s.projection then "*" else s.projection) ++ " FROM "

def restrictions (s : Specification) : String :=
  s.filters ++ clause " GROUP BY " s.grouping ++ clause " HAVING " s.groupFilter

def core (s : Specification) (source : Option (DerivedTable Specification × Except Error Draft))
    (parameters : Parameters) : Except Error Draft :=
  match source with
  | none => .ok ⟨[.text (s.selection ++ s.table ++ s.restrictions)], parameters⟩
  | some (source, draft) => do
    let inner ← draft
    let parameters ← merge parameters inner.parameters
    return ⟨.text (s.selection ++ "(") :: inner.segments ++
      [.text (") " ++ source.label ++ s.restrictions)], parameters⟩

def repeatedCte (name : String) : Error :=
  .invalidArgument "name"
    s!"common table expression '{name}' is defined twice with different queries"

/-- The definitions of common tables, each with its text. A name met again with an equal query is
passed over. -/
def definitions (seen : List (CommonTable Specification)) (parameters : Parameters) :
    List (CommonTable Specification × Except Error Draft) →
      Except Error (List (List Segment) × Parameters)
  | [] => .ok ([], parameters)
  | (cte, draft) :: rest =>
    match seen.find? (·.name == cte.name) with
    | some first =>
      if first.query.same cte.query then definitions seen parameters rest
      else .error (repeatedCte cte.name)
    | none => do
      let inner ← draft
      let parameters ← merge parameters inner.parameters
      let (parts, parameters) ← definitions (seen ++ [cte]) parameters rest
      return ((.text (cte.name ++ " AS (") :: inner.segments ++ [.text ")"]) :: parts, parameters)

def withClause (parts : List (List Segment)) : List Segment :=
  match parts with
  | [] => []
  | parts => .text "WITH " :: List.intercalate [.text ", "] parts ++ [.text " "]

/-- The members of a union. What they order, page or unite themselves is not written. -/
def unionText (parameters : Parameters) :
    List (UnionMember Specification × Outline) → Except Error Draft
  | [] => .ok ⟨[], parameters⟩
  | (member, outline) :: rest => do
    member.query.requireTable
    let parameters ← merge parameters member.query.parameters
    let inner ← member.query.core outline.source parameters
    let others ← unionText inner.parameters rest
    return ⟨.text (if member.all then " UNION ALL " else " UNION ") :: inner.segments ++
      others.segments, others.parameters⟩

def pagingText (s : Specification) : List Segment :=
  match s.paging with
  | none => []
  | some (skip, take) => [.paging skip take]

def assemble (s : Specification) (outline : Outline) : Except Error Draft := do
  s.requireTable
  let ctes := outline.ctes ++ outline.members.flatMap (·.2.ctes)
  let (parts, parameters) ← definitions [] s.parameters ctes
  let inner ← s.core outline.source parameters
  let others ← unionText inner.parameters outline.members
  return ⟨withClause parts ++ inner.segments ++ others.segments ++
    .text (clause " ORDER BY " s.ordering) :: s.pagingText, others.parameters⟩

mutual

def outline : Specification → Outline
  | ⟨_, _, _, _, _, _, _, _, _, _, _, _, unions, source, ctes⟩ =>
    ⟨outlineMembers unions, draftSource source, draftCtes ctes⟩

def outlineMembers :
    List (UnionMember Specification) → List (UnionMember Specification × Outline)
  | [] => []
  | member :: members => (member, outline member.query) :: outlineMembers members

def draftSource : Option (DerivedTable Specification) →
    Option (DerivedTable Specification × Except Error Draft)
  | none => none
  | some source => some (source, assemble source.query (outline source.query))

def draftCtes : List (CommonTable Specification) →
    List (CommonTable Specification × Except Error Draft)
  | [] => []
  | cte :: ctes => (cte, assemble cte.query (outline cte.query)) :: draftCtes ctes

end

def draft (s : Specification) : Except Error Draft := s.assemble s.outline

end Specification

end SelectQuery
