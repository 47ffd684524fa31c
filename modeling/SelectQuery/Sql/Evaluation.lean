import SelectQuery.Sql.Part

namespace SelectQuery.Sql

/-- The output that a key of a union's order means: the first member with one gives it. -/
def unionKey (parts : List Part) (columns place : Nat) (key : Key) : Except Problem (Nat × Bool) :=
  match key.target with
  | .position n =>
    if 1 ≤ n && n ≤ columns then .ok (n - 1, key.descending)
    else .error (.keyOutOfRange place columns)
  | .column c =>
    match parts.findSome? (·.matching? c) with
    | none => .error (.unmatchedKey place)
    | some i => .ok (i, key.descending)

def sortCells (keys : List (Nat × Bool)) (row : Row) : List SortCell :=
  keys.map fun (i, descending) => ⟨row.getD i .null, descending⟩

/-- The rows of a union so far and one more member. Where equal rows do not stay, the rows are
sorted by the keys and then by all their cells. -/
def unite (keys : List (Nat × Bool)) (rows : List Row) (all : Bool) (more : List Row) : List Row :=
  if all then rows ++ more
  else sortBy (fun row => sortCells keys row ++ row.map (⟨·, false⟩)) (distinctBy id (rows ++ more))

def uniteAll (keys : List (Nat × Bool)) : List Row → List (Bool × Part) → List Row
  | rows, [] => rows
  | rows, (all, part) :: parts =>
    uniteAll keys (unite keys rows all (part.rows.map Prod.fst)) parts

def checkMembers (first : Except Problem Part) :
    List (Bool × Except Problem Part) → Except Problem (Part × List (Bool × Part))
  | [] => do return (← first, [])
  | (all, part) :: others => do
    let (next, parts) ← checkMembers part others
    let first ← first
    if first.outputs.length = next.outputs.length then return (first, (all, next) :: parts)
    else .error (.unevenUnion all)

/-- The columns of an inner union have the types of its last member. -/
def withTypesOf (last : Part) (columns : List Column) : List Column :=
  columns.zipWith (fun c o => { c with declared := o.column.declared }) last.outputs

def unionRelation (first : Part) (others : List (Bool × Part)) (ordered : Bool) (keys : List Key)
    (inner : Bool) : Except Problem Relation := do
  let parts := first :: others.map Prod.snd
  let keys ← (keys.zipIdx 1).mapM fun (key, place) =>
    unionKey parts first.outputs.length place key
  let keys := if ordered then keys else []
  let rows := uniteAll keys (first.rows.map Prod.fst) others
  let columns := first.relation.columns
  return ⟨if inner then withTypesOf (parts.getLastD first) columns else columns,
    sortBy (sortCells keys) rows⟩

def page (paging : Option Paging) (rows : List Row) : List Row :=
  match paging with
  | none => rows
  | some p => (rows.drop p.skip).take p.take

/-- Missing tables show before anything else that is wrong with a query. -/
abbrev Outcome := Except Problem (Except Problem Relation)

def asTable (r : Relation) : Relation := { r with columns := numbered [] r.columns }

inductive Standing
  | whole
  | inner (ordered : Bool)

namespace Standing

def isInner : Standing → Bool
  | whole => false
  | inner _ => true

def isOrdered : Standing → Bool
  | whole => true
  | inner ordered => ordered

/-- The order of an inner query is not kept where the outer one has its own. -/
def under (outerKeys : List Key) (q : Select) : Standing :=
  .inner (outerKeys.isEmpty || q.paging.isSome)

end Standing

def sourceOutcome (inner : Standing → Scope → Select → Outcome) (tables : List (String × Relation))
    (scope : Scope) (keys : List Key) : Source Select → Outcome
  | .query q _ => do return (← inner (.under keys q) scope q).map asTable
  | .table name _ =>
    match scope.find? name with
    | some (some q, scope) => do return (← inner (.under keys q) scope q).map asTable
    | some (none, _) => .error (.circularReference name)
    | none =>
      match tables.find? (sameName name ·.1) with
      | some (_, r) => .ok (.ok r)
      | none => .error (.noSuchTable name)

def Source.label : Source Select → Option String
  | .query _ label => label
  | .table _ label => some label

def coreOutcome (inner : Standing → Scope → Select → Outcome) (tables : List (String × Relation))
    (scope : Scope) (keys : List Key) (core : Core Select) :
    Except Problem (Except Problem Part) := do
  let source ← sourceOutcome inner tables scope keys core.source
  return source.bind (Part.ofCore core core.source.label)

/-- The tables of a union, found from the last member to the first. -/
def membersOutcome (outcome : Core Select → Except Problem (Except Problem Part)) :
    List (Bool × Core Select) → Except Problem (List (Bool × Except Problem Part))
  | [] => .ok []
  | (all, core) :: others => do
    let parts ← membersOutcome outcome others
    return (all, ← outcome core) :: parts

def selectRelation (first : Except Problem Part) (others : List (Bool × Except Problem Part))
    (q : Select) (standing : Standing) : Except Problem Relation := do
  let (first, others) ← checkMembers first others
  let r ←
    match others with
    | [] => first.sorted standing.isOrdered q.ordering
    | others => unionRelation first others standing.isOrdered q.ordering standing.isInner
  return { r with rows := page q.paging r.rows }

/-- The rows of a query. Each common table in use and each inner query takes one level. -/
def selectOutcome (tables : List (String × Relation)) : Nat → Standing → Scope → Select → Outcome
  | 0, _, _, _ => .error .incomplete
  | levels + 1, standing, scope, q => do
    let scope := q.ctes.map (fun (name, q) => (name, some q)) :: scope
    let outcome := coreOutcome (selectOutcome tables levels) tables scope q.ordering
    let others ← membersOutcome outcome q.others
    let first ← outcome q.first
    return selectRelation first others q standing

end SelectQuery.Sql
