import SelectQuery.Proofs.Query.Reduction
import SelectQuery.Specification.Builder
import SelectQuery.Specification.Document

namespace SelectQuery

namespace Text

lemma isBlank_append (a b : String) : isBlank (a ++ b) = (isBlank a && isBlank b) := by
  rw [isBlank, String.toList_append, List.all_append]
  rfl

lemma isBlank_append_right {b : String} (a : String) (h : isBlank b = false) :
    isBlank (a ++ b) = false := by
  rw [isBlank_append, h, Bool.and_false]

end Text

namespace Specification

/-- What callers can hold: the nested queries that they hand over are of the same kind. -/
inductive Built : Specification → Prop
  | empty : Built {}
  | ofTable (table : String) : Built (ofTable table)
  | ofEntity (entity : Entity) : Built (ofEntity entity)
  | load {j s} : load j = .ok s → Built s
  | apply {s t call} : Built s → (∀ q ∈ call.nested?, Built q) → s.apply call = .ok t → Built t

variable {s t : Specification}

lemma requireText_then_ok_iff {α : Type} {value argument : String} {a b : α} :
    (do requireText value argument; return a) = (.ok b : Except Error α) ↔
      Text.isBlank value = false ∧ a = b := by
  rw [← requireText_ok_iff value argument]
  cases requireText value argument with
  | error e => exact ⟨nofun, nofun⟩
  | ok _ =>
    constructor
    · intro h
      cases h
      exact ⟨rfl, rfl⟩
    · rintro ⟨-, rfl⟩
      rfl

lemma isBlank_extend (clauses separator : String) {clause : String}
    (h : Text.isBlank clause = false) : Text.isBlank (extend clauses separator clause) = false := by
  rw [extend]
  split
  · exact h
  · exact Text.isBlank_append_right _ h

def frame (s : Specification) : Option UInt64 × Option UInt64 ×
    List (UnionMember Specification) × Option (DerivedTable Specification) ×
    List (CommonTable Specification) :=
  (s.skip, s.take, s.unions, s.source, s.ctes)

lemma Valid.of_clauses (hs : Valid s) (hframe : t.frame = s.frame)
    (ht : ∀ text ∈ t.clauseTexts, text ∈ s.clauseTexts ∨ Text.isBlank text = false) : Valid t := by
  simp only [frame, Prod.mk.injEq] at hframe
  obtain ⟨hskip, htake, hunions, hsource, hctes⟩ := hframe
  constructor
  · intro text htext
    rcases ht text htext with hold | hnew
    · exact hs.clauses text hold
    · exact Or.inr hnew
  · rw [hskip, htake]
    exact hs.paging
  · rw [hunions]
    exact hs.unions
  · rw [hsource]
    exact hs.source
  · rw [hctes]
    exact hs.ctes

lemma Valid.writeClause {u : Specification} {clause : String} (hs : Valid s)
    (h : (do requireText clause "clause"; return t) = (.ok u : Except Error Specification))
    (hframe : t.frame = s.frame)
    (ht : Text.isBlank clause = false →
      ∀ text ∈ t.clauseTexts, text ∈ s.clauseTexts ∨ Text.isBlank text = false) : Valid u := by
  obtain ⟨hclause, rfl⟩ := requireText_then_ok_iff.mp h
  exact hs.of_clauses hframe (ht hclause)

lemma Valid.addWhere {clause : String} (hs : Valid s) (h : s.addWhere clause = .ok t) :
    Valid t := by
  apply hs.writeClause h rfl
  intro hclause
  simp [clauseTexts, isBlank_extend _ _ hclause]

lemma Valid.addWhereOr {clause : String} (hs : Valid s) (h : s.addWhereOr clause = .ok t) :
    Valid t := by
  apply hs.writeClause h rfl
  intro hclause
  simp [clauseTexts, isBlank_extend _ _ hclause]

lemma Valid.addHaving {clause : String} (hs : Valid s) (h : s.addHaving clause = .ok t) :
    Valid t := by
  apply hs.writeClause h rfl
  intro hclause
  simp [clauseTexts, isBlank_extend _ _ hclause]

lemma Valid.withParams {object : Json} (hs : Valid s) (h : s.withParams object = .ok t) :
    Valid t := by
  rw [Specification.withParams] at h
  split at h
  · cases h
    exact hs.of_clauses rfl fun text htext => Or.inl htext
  · cases h

lemma toNat_toUInt64_lt {i : Int64} (h : 0 ≤ i) : i.toUInt64.toNat < signedLimit := by
  have hlt := Int64.toInt_lt i
  rw [Int64.toNat_toUInt64_of_le h, Int64.toNatClampNeg, signedLimit]
  omega

lemma checkPaging_toUInt64 {skip take : Int64} (hskip : 0 ≤ skip) (htake : 0 < take) :
    checkPaging (some skip.toUInt64) (some take.toUInt64) = .ok () := by
  have hne : take.toUInt64 ≠ 0 := by
    intro h
    have hzero : take = 0 := by
      rw [← Int64.toInt64_toUInt64 take, h]
      rfl
    rw [hzero] at htake
    exact absurd htake (by decide)
  have hs := toNat_toUInt64_lt hskip
  have ht := toNat_toUInt64_lt (Int64.le_of_lt htake)
  simp only [checkPaging, hne, if_false, Nat.not_le.mpr hs, Nat.not_le.mpr ht]

lemma Valid.setPaging {skip take : Int64} (hs : Valid s) (h : s.setPaging skip take = .ok t) :
    Valid t := by
  rw [Specification.setPaging] at h
  split at h
  · cases h
  · next hskip =>
    split at h
    · cases h
    · next htake =>
      cases h
      have hpaging := checkPaging_toUInt64 (Int64.not_lt.mp hskip) (Int64.not_le.mp htake)
      exact ⟨hs.clauses, hpaging, hs.unions, hs.source, hs.ctes⟩

lemma Valid.addUnion {query : Specification} (hs : Valid s) (hq : query.validate = .ok ())
    (all : Bool) : Valid (s.addUnion query all) := by
  refine ⟨hs.clauses, hs.paging, ?_, hs.source, hs.ctes⟩
  intro m hm
  rcases List.mem_append.mp hm with hold | hnew
  · exact hs.unions m hold
  · rw [List.mem_singleton.mp hnew]
    exact hq

lemma Valid.setSource {query : Specification} {label : String} (hs : Valid s)
    (hq : query.validate = .ok ()) (h : s.setSource query label = .ok t) : Valid t := by
  obtain ⟨hlabel, rfl⟩ := requireText_then_ok_iff.mp h
  refine ⟨hs.clauses, hs.paging, hs.unions, ?_, hs.ctes⟩
  intro d hd
  cases Option.some.inj hd
  exact ⟨hlabel, hq⟩

lemma Valid.addCte {query : Specification} {name : String} (hs : Valid s)
    (hq : query.validate = .ok ()) (h : s.addCte name query = .ok t) : Valid t := by
  obtain ⟨hname, rfl⟩ := requireText_then_ok_iff.mp h
  refine ⟨hs.clauses, hs.paging, hs.unions, hs.source, ?_⟩
  intro c hc
  rcases List.mem_append.mp hc with hold | hnew
  · exact hs.ctes c hold
  · rw [List.mem_singleton.mp hnew]
    exact ⟨hname, hq⟩

theorem Valid.apply {call : Call} (hs : Valid s)
    (hq : ∀ q ∈ call.nested?, q.validate = .ok ()) (h : s.apply call = .ok t) : Valid t := by
  cases call with
  | setTable table =>
    cases h
    exact hs.of_clauses rfl fun text htext => Or.inl htext
  | setPrimaryKey key =>
    cases h
    exact hs.of_clauses rfl fun text htext => Or.inl htext
  | setDistinct =>
    cases h
    exact hs.of_clauses rfl fun text htext => Or.inl htext
  | setSelect clause =>
    apply hs.writeClause h rfl
    intro hclause
    simp [clauseTexts, hclause]
  | addWhere clause => exact hs.addWhere h
  | addWhereOr clause => exact hs.addWhereOr h
  | addWhereWith clause object =>
    obtain ⟨u, hu, ht⟩ := bind_eq_ok h
    exact (hs.addWhere hu).withParams ht
  | addWhereOrWith clause object =>
    obtain ⟨u, hu, ht⟩ := bind_eq_ok h
    exact (hs.addWhereOr hu).withParams ht
  | addRawJoin clause =>
    apply hs.writeClause h rfl
    intro hclause
    simp [clauseTexts, Text.isBlank_append_right _ hclause]
  | addJoin kind clause =>
    apply hs.writeClause h rfl
    intro hclause
    simp [clauseTexts, Text.isBlank_append_right _ hclause]
  | addGroupBy clause =>
    apply hs.writeClause h rfl
    intro hclause
    simp [clauseTexts, isBlank_extend _ _ hclause]
  | addHaving clause => exact hs.addHaving h
  | addHavingWith clause object =>
    obtain ⟨u, hu, ht⟩ := bind_eq_ok h
    exact (hs.addHaving hu).withParams ht
  | addOrder clause =>
    apply hs.writeClause h rfl
    intro hclause
    simp [clauseTexts, isBlank_extend _ _ hclause]
  | setPaging skip take => exact hs.setPaging h
  | withParam name value =>
    obtain ⟨parameters, -, ht⟩ := bind_eq_ok h
    cases ht
    exact hs.of_clauses rfl fun text htext => Or.inl htext
  | withParams object => exact hs.withParams h
  | addUnion query all =>
    cases h
    exact hs.addUnion (hq query rfl) all
  | setSource query label => exact hs.setSource (hq query rfl) h
  | addCte name query => exact hs.addCte (hq query rfl) h

lemma valid_ofTable (table : String) : Valid (ofTable table) := by
  refine ⟨?_, rfl, nofun, nofun, nofun⟩
  intro text htext
  simp [clauseTexts, Specification.ofTable] at htext
  simp [htext]

lemma load_eq_ok {j : Json} (h : load j = .ok s) : read? j = some s ∧ s.validate = .ok () := by
  rw [load] at h
  cases hr : read? j with
  | none =>
    rw [hr] at h
    cases h
  | some u =>
    rw [hr] at h
    cases hv : u.validate with
    | error e =>
      simp only [hv] at h
      cases h
    | ok _ =>
      simp only [hv] at h
      cases h
      exact ⟨rfl, hv⟩

lemma Built.valid (h : Built s) : Valid s := by
  induction h with
  | empty => exact valid_ofTable ""
  | ofTable table => exact valid_ofTable table
  | ofEntity entity =>
    exact (valid_ofTable entity.table).of_clauses rfl fun text htext => Or.inl htext
  | load h => exact validate_ok_iff.mp (load_eq_ok h).2
  | apply _ _ h hs hq => exact hs.apply (fun q hm => validate_ok_iff.mpr (hq q hm)) h

lemma tableRows_error_iff (selected : String) (query : String → Query) :
    (∃ e, (s.tableRows selected).map query = .error e) ↔ Text.isBlank s.table = true := by
  rw [tableRows, requireTable]
  cases Text.isBlank s.table with
  | true => exact ⟨fun _ => rfl, fun _ => ⟨_, rfl⟩⟩
  | false =>
    constructor
    · rintro ⟨e, h⟩
      cases h
    · exact Bool.noConfusion

lemma compile_error_iff {mode : Mode} (hv : s.validate = .ok ()) (hm : mode ≠ .rows)
    (dialect : Dialect) :
    (∃ e, s.compile dialect mode = .error e) ↔ Text.isBlank s.table = true := by
  cases mode with
  | rows => exact absurd rfl hm
  | count =>
    rw [compile_count hv]
    exact tableRows_error_iff _ _
  | existence =>
    rw [compile_existence hv]
    exact tableRows_error_iff _ _

theorem validate_of_built (h : Built s) : s.validate = .ok () ∧
    ∀ dialect mode, mode ≠ .rows →
      ((∃ e, s.compile dialect mode = .error e) ↔ Text.isBlank s.table = true) := by
  have hv : s.validate = .ok () := validate_ok_iff.mpr h.valid
  exact ⟨hv, fun dialect mode hm => compile_error_iff hv hm dialect⟩

def readOrders : Specification := { table := "old", filter := "total > 9" }

def unitedOrders : Specification :=
  { table := "orders", primaryKey := "id", skip := some 20, take := some 10
    unions := [⟨readOrders, true⟩] }

lemma built_readOrders : Built readOrders := by
  have hload : load (.object
      [("where_clause", .string "total > 9"), ("table_name", .string "old")]) =
        .ok readOrders := rfl
  exact .load hload

lemma built_unitedOrders : Built unitedOrders := by
  let entity : Specification := ofEntity ⟨"orders", "id"⟩
  let paged : Specification := { entity with skip := some 20, take := some 10 }
  have hpage : entity.apply (.setPaging 20 10) = .ok paged := rfl
  have hunite : paged.apply (.addUnion readOrders true) = .ok unitedOrders := rfl
  have hnone : ∀ q ∈ (Call.setPaging 20 10).nested?, Built q := nofun
  have hpaged : Built paged := .apply (.ofEntity _) hnone hpage
  refine .apply hpaged ?_ hunite
  intro q hq
  cases hq
  exact built_readOrders

theorem validate_of_built_unitedOrders :
    Built unitedOrders ∧ unitedOrders.validate = .ok () ∧
      ¬ ∃ e, unitedOrders.compile .sqlServer .existence = .error e := by
  obtain ⟨hv, hmodes⟩ := validate_of_built built_unitedOrders
  refine ⟨built_unitedOrders, hv, fun h => ?_⟩
  have hblank := (hmodes .sqlServer .existence nofun).mp h
  exact Bool.noConfusion (hblank.symm.trans (by decide +kernel : Text.isBlank "orders" = false))

end Specification

end SelectQuery
