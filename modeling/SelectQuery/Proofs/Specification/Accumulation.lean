import SelectQuery.Proofs.Parameters.Writing
import SelectQuery.Proofs.Specification.Building

/-! What calls build is said field by field: by the calls that write the field, in their order. -/

namespace SelectQuery

namespace Parameters

def objectEntries (object : Json) : List (String × Value) :=
  (Entries.ofList (object.asObject?.getD [])).map entryOf

def Writable : Json → Prop
  | .null => True
  | .object members => ∀ m ∈ Entries.ofList members, ¬ Nameless m
  | _ => False

end Parameters

namespace Specification

open Parameters (objectEntries Writable normalName)

namespace Call

def table? : Call → Option String
  | setTable table => some table
  | _ => none

def primaryKey? : Call → Option String
  | setPrimaryKey key => some key
  | _ => none

def projection? : Call → Option String
  | setSelect clause => some clause
  | _ => none

def setsDistinct : Call → Bool
  | setDistinct => true
  | _ => false

def join? : Call → Option String
  | addRawJoin clause => some (" " ++ clause)
  | addJoin kind clause => some (" " ++ kind.keyword ++ " " ++ clause)
  | _ => none

def filter? : Call → Option (String × String)
  | addWhere clause | addWhereWith clause _ => some (" AND ", clause)
  | addWhereOr clause | addWhereOrWith clause _ => some (" OR ", clause)
  | _ => none

def grouping? : Call → Option String
  | addGroupBy clause => some clause
  | _ => none

def groupFilter? : Call → Option String
  | addHaving clause | addHavingWith clause _ => some clause
  | _ => none

def ordering? : Call → Option String
  | addOrder clause => some clause
  | _ => none

def paging? : Call → Option (Int64 × Int64)
  | setPaging skip take => some (skip, take)
  | _ => none

def entries : Call → List (String × Value)
  | withParam name value => [(normalName name, value)]
  | withParams object | addWhereWith _ object | addWhereOrWith _ object | addHavingWith _ object =>
    objectEntries object
  | _ => []

def union? : Call → Option (UnionMember Specification)
  | addUnion query all => some ⟨query, all⟩
  | _ => none

def source? : Call → Option (DerivedTable Specification)
  | setSource query label => some ⟨query, label⟩
  | _ => none

def cte? : Call → Option (CommonTable Specification)
  | addCte name query => some ⟨name, query⟩
  | _ => none

/-- The arguments that are accepted, whatever has been built. -/
def Accepted : Call → Prop
  | setTable _ | setPrimaryKey _ | setDistinct | addUnion _ _ => True
  | setSelect clause | addWhere clause | addWhereOr clause | addRawJoin clause | addJoin _ clause
  | addGroupBy clause | addHaving clause | addOrder clause => Text.isBlank clause = false
  | addWhereWith clause object | addWhereOrWith clause object | addHavingWith clause object =>
    Text.isBlank clause = false ∧ Writable object
  | setPaging skip take => 0 ≤ skip ∧ 0 < take
  | withParam name _ => Text.isBlank (normalName name) = false
  | withParams object => Writable object
  | setSource _ label => Text.isBlank label = false
  | addCte name _ => Text.isBlank name = false

end Call

def after (s : Specification) (call : Call) : Specification where
  table := call.table?.elim s.table id
  primaryKey := call.primaryKey?.elim s.primaryKey id
  projection := call.projection?.elim s.projection id
  distinct := call.setsDistinct || s.distinct
  joins := call.join?.elim s.joins (s.joins ++ ·)
  filter := call.filter?.elim s.filter fun part => extend s.filter part.1 part.2
  grouping := call.grouping?.elim s.grouping (extend s.grouping ", ")
  groupFilter := call.groupFilter?.elim s.groupFilter (extend s.groupFilter " AND ")
  ordering := call.ordering?.elim s.ordering (extend s.ordering ", ")
  skip := call.paging?.elim s.skip fun window => some window.1.toUInt64
  take := call.paging?.elim s.take fun window => some window.2.toUInt64
  parameters := s.parameters.write call.entries
  unions := call.union?.elim s.unions fun m => s.unions ++ [m]
  source := call.source?.elim s.source some
  ctes := call.cte?.elim s.ctes fun c => s.ctes ++ [c]

section Steps

variable {s t u : Specification} {clause : String} {object : Json} {call : Call}

end Steps

def chained : List (String × String) → String
  | [] => ""
  | first :: later => first.2 ++ String.join (later.map fun part => part.1 ++ part.2)

section Folds

variable {α β : Type} {view : Specification → β} {part? : Call → Option α} {step : β → α → β}

end Folds

structure Accumulated (calls : List Call) (s : Specification) : Prop where
  table : s.table = (calls.filterMap Call.table?).getLast?.getD ""
  primaryKey : s.primaryKey = (calls.filterMap Call.primaryKey?).getLast?.getD ""
  projection : s.projection = (calls.filterMap Call.projection?).getLast?.getD ""
  distinct : s.distinct = calls.any Call.setsDistinct
  joins : s.joins = String.join (calls.filterMap Call.join?)
  filter : s.filter = chained (calls.filterMap Call.filter?)
  grouping : s.grouping = ", ".intercalate (calls.filterMap Call.grouping?)
  groupFilter : s.groupFilter = " AND ".intercalate (calls.filterMap Call.groupFilter?)
  ordering : s.ordering = ", ".intercalate (calls.filterMap Call.ordering?)
  skip : s.skip.map (fun n => (n.toNat : Int)) =
    (calls.filterMap Call.paging?).getLast?.map (·.1.toInt)
  take : s.take.map (fun n => (n.toNat : Int)) =
    (calls.filterMap Call.paging?).getLast?.map (·.2.toInt)
  parameters : ∀ name,
    s.parameters.get? name = (calls.flatMap Call.entries).reverse.lookup name
  unions : s.unions = calls.filterMap Call.union?
  source : s.source = (calls.filterMap Call.source?).getLast?
  ctes : s.ctes = calls.filterMap Call.cte?

section Accepted

variable {calls : List Call} {call : Call}

lemma Call.Accepted.filter (h : call.Accepted) :
    ∀ part ∈ call.filter?, Text.isBlank part.2 = false := by
  cases call with
  | addWhere clause | addWhereOr clause =>
    rintro _ ⟨⟩
    exact h
  | addWhereWith clause object | addWhereOrWith clause object =>
    rintro _ ⟨⟩
    exact h.1
  | _ => exact nofun

lemma Call.Accepted.grouping (h : call.Accepted) :
    ∀ clause ∈ call.grouping?, Text.isBlank clause = false := by
  cases call with
  | addGroupBy clause =>
    rintro _ ⟨⟩
    exact h
  | _ => exact nofun

lemma Call.Accepted.groupFilter (h : call.Accepted) :
    ∀ clause ∈ call.groupFilter?, Text.isBlank clause = false := by
  cases call with
  | addHaving clause =>
    rintro _ ⟨⟩
    exact h
  | addHavingWith clause object =>
    rintro _ ⟨⟩
    exact h.1
  | _ => exact nofun

lemma Call.Accepted.ordering (h : call.Accepted) :
    ∀ clause ∈ call.ordering?, Text.isBlank clause = false := by
  cases call with
  | addOrder clause =>
    rintro _ ⟨⟩
    exact h
  | _ => exact nofun

lemma Call.Accepted.paging (h : call.Accepted) :
    ∀ window ∈ call.paging?, 0 ≤ window.1 ∧ 0 < window.2 := by
  cases call with
  | setPaging skip take =>
    rintro _ ⟨⟩
    exact h
  | _ => exact nofun

end Accepted

inductive Field
  | table
  | primaryKey
  | projection
  | distinct
  | joins
  | filter
  | grouping
  | groupFilter
  | ordering
  | paging
  | parameters
  | unions
  | source
  | ctes

def Call.touches (call : Call) : Field → Bool
  | .table => call.table?.isSome
  | .primaryKey => call.primaryKey?.isSome
  | .projection => call.projection?.isSome
  | .distinct => call.setsDistinct
  | .joins => call.join?.isSome
  | .filter => call.filter?.isSome
  | .grouping => call.grouping?.isSome
  | .groupFilter => call.groupFilter?.isSome
  | .ordering => call.ordering?.isSome
  | .paging => call.paging?.isSome
  | .parameters => !call.entries.isEmpty
  | .unions => call.union?.isSome
  | .source => call.source?.isSome
  | .ctes => call.cte?.isSome

structure Reordered (calls calls' : List Call) : Prop where
  perm : calls.Perm calls'
  order : ∀ field, calls.filter (·.touches field) = calls'.filter (·.touches field)

section Reordering

variable {calls calls' : List Call} {s t : Specification}

lemma filterMap_filter_isSome {α β : Type} (part? : α → Option β) (as : List α) :
    (as.filter fun a => (part? a).isSome).filterMap part? = as.filterMap part? := by
  rw [List.filterMap_filter]
  congr 1
  funext a
  cases part? a <;> rfl

lemma flatMap_filter_isEmpty {α β : Type} (f : α → List β) (as : List α) :
    (as.filter fun a => !(f a).isEmpty).flatMap f = as.flatMap f := by
  induction as with
  | nil => rfl
  | cons a as ih =>
    rw [List.filter_cons, List.flatMap_cons]
    cases hf : f a with
    | nil => exact ih
    | cons b bs =>
      rw [List.isEmpty_cons, Bool.not_false, if_pos rfl, List.flatMap_cons, hf, ih]

lemma Reordered.filterMap {α : Type} {part? : Call → Option α} (h : Reordered calls calls')
    (field : Field) (hf : ∀ call, call.touches field = (part? call).isSome) :
    calls.filterMap part? = calls'.filterMap part? := by
  have horder := h.order field
  simp only [hf] at horder
  rw [← filterMap_filter_isSome part? calls, horder, filterMap_filter_isSome]

lemma Reordered.flatMap_entries (h : Reordered calls calls') :
    calls.flatMap Call.entries = calls'.flatMap Call.entries := by
  rw [← flatMap_filter_isEmpty, ← flatMap_filter_isEmpty Call.entries calls']
  exact congrArg (List.flatMap Call.entries) (h.order .parameters)

lemma toNat_injective : Function.Injective fun n : UInt64 => (n.toNat : Int) :=
  fun _ _ h => UInt64.toNat_inj.mp (Int.ofNat.inj h)

lemma Accumulated.eq (hs : Accumulated calls s) (ht : Accumulated calls' t)
    (h : Reordered calls calls') : s = t := by
  have hpaging : calls.filterMap Call.paging? = calls'.filterMap Call.paging? :=
    h.filterMap .paging fun _ => rfl
  ext1
  case table => rw [hs.table, ht.table, h.filterMap .table fun _ => rfl]
  case primaryKey => rw [hs.primaryKey, ht.primaryKey, h.filterMap .primaryKey fun _ => rfl]
  case projection => rw [hs.projection, ht.projection, h.filterMap .projection fun _ => rfl]
  case distinct => rw [hs.distinct, ht.distinct, h.perm.any_eq]
  case joins => rw [hs.joins, ht.joins, h.filterMap .joins fun _ => rfl]
  case filter => rw [hs.filter, ht.filter, h.filterMap .filter fun _ => rfl]
  case grouping => rw [hs.grouping, ht.grouping, h.filterMap .grouping fun _ => rfl]
  case groupFilter => rw [hs.groupFilter, ht.groupFilter, h.filterMap .groupFilter fun _ => rfl]
  case ordering => rw [hs.ordering, ht.ordering, h.filterMap .ordering fun _ => rfl]
  case skip =>
    apply Option.map_injective toNat_injective
    rw [hs.skip, ht.skip, hpaging]
  case take =>
    apply Option.map_injective toNat_injective
    rw [hs.take, ht.take, hpaging]
  case parameters =>
    refine NameMap.eq_of_get? fun name => ?_
    rw [hs.parameters, ht.parameters, h.flatMap_entries]
  case unions => rw [hs.unions, ht.unions, h.filterMap .unions fun _ => rfl]
  case source => rw [hs.source, ht.source, h.filterMap .source fun _ => rfl]
  case ctes => rw [hs.ctes, ht.ctes, h.filterMap .ctes fun _ => rfl]

end Reordering

end Specification

end SelectQuery
