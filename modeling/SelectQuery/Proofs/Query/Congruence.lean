import SelectQuery.Proofs.Query.Emission
import SelectQuery.Proofs.Specification.Validity
import SelectQuery.Query.Basic

/-! Equal specifications compile to the same text with equal parameters, or fail with the same
error. So a common table that repeats an equal one can be passed over. -/

namespace SelectQuery

inductive Paired {α β : Type} (R : α → β → Prop) : Except Error α → Except Error β → Prop
  | ok {a : α} {b : β} : R a b → Paired R (.ok a) (.ok b)
  | error (e : Error) : Paired R (.error e) (.error e)

namespace Paired

variable {α β γ δ : Type} {R : α → β → Prop} {S : γ → δ → Prop}

lemma bind {x : Except Error α} {y : Except Error β} {f : α → Except Error γ}
    {g : β → Except Error δ} (h : Paired R x y) (hn : ∀ a b, R a b → Paired S (f a) (g b)) :
    Paired S (x >>= f) (y >>= g) := by
  cases h with
  | ok hr => exact hn _ _ hr
  | error e => exact .error e

lemma of_eq {x y : Except Error α} (h : x = y) : Paired Eq x y := by
  subst h
  cases x with
  | ok a => exact .ok rfl
  | error e => exact .error e

end Paired

lemma decision_congr {α : Type} {r : α → α → Bool} (hsymm : ∀ {a b}, r a b = true → r b a = true)
    (htrans : ∀ {a b c}, r a b = true → r b c = true → r a c = true) {a a' b b' : α}
    (ha : r a a' = true) (hb : r b b' = true) : r a b = r a' b' := by
  rw [Bool.eq_iff_iff]
  constructor
  · intro h
    exact htrans (hsymm ha) (htrans h hb)
  · intro h
    exact htrans ha (htrans h (hsymm hb))

namespace Parameters

def SameEntry (a b : String × Value) : Prop := a.1 = b.1 ∧ a.2.same b.2 = true

lemma same_iff_forall₂ {p q : Parameters} :
    p.same q = true ↔ List.Forall₂ SameEntry p.entries q.entries := sameEntries_iff

lemma forall₂_insert {as bs : List (String × Value)} (h : List.Forall₂ SameEntry as bs)
    {v w : Value} (hvw : v.same w = true) (name : String) :
    List.Forall₂ SameEntry (Entries.insert name v as) (Entries.insert name w bs) := by
  induction h with
  | nil => exact .cons ⟨rfl, hvw⟩ .nil
  | @cons a b as bs hab hrest ih =>
    obtain ⟨m, v'⟩ := a
    obtain ⟨n, w'⟩ := b
    obtain ⟨rfl, hab⟩ := hab
    rw [Entries.insert, Entries.insert]
    split
    · exact .cons ⟨rfl, hvw⟩ (.cons ⟨rfl, hab⟩ hrest)
    · split
      · exact .cons ⟨rfl, hvw⟩ hrest
      · exact .cons ⟨rfl, hab⟩ ih

lemma same_insert {p q : Parameters} (h : p.same q = true) {v w : Value} (hvw : v.same w = true)
    (name : String) : same (p.insert name v) (q.insert name w) = true := by
  rw [same_iff_forall₂] at h ⊢
  exact forall₂_insert h hvw name

end Parameters

namespace Specification

open Parameters (SameEntry)

section Merging

def SameParameters (p q : Parameters) : Prop := p.same q = true

lemma paired_mergeEntries {as bs : List (String × Value)} (h : List.Forall₂ SameEntry as bs)
    {p q : Parameters} (hpq : p.same q = true) :
    Paired SameParameters ((p.mergeEntries as).mapError Parameters.Stopped.error)
      ((q.mergeEntries bs).mapError Parameters.Stopped.error) := by
  induction h generalizing p q with
  | nil => exact .ok hpq
  | @cons a b as bs hab _ ih =>
    obtain ⟨name, v⟩ := a
    obtain ⟨n, w⟩ := b
    obtain ⟨rfl, hvw⟩ := hab
    rw [Parameters.mergeEntries, Parameters.mergeEntries]
    obtain ⟨hp, hq⟩ | ⟨v', w', hp, hq, hvw'⟩ := rel_cases (Parameters.get?_of_same hpq name)
    · rw [hp, hq]
      exact ih (Parameters.same_insert hpq hvw name)
    · rw [hp, hq]
      have hdecision : v'.same v = w'.same w :=
        decision_congr (r := Value.same) Value.same_symm Value.same_trans hvw' hvw
      simp only [hdecision]
      cases w'.same w with
      | true => exact ih hpq
      | false => exact .error _

lemma paired_merge {p p' q q' : Parameters} (hp : p.same p' = true) (hq : q.same q' = true) :
    Paired SameParameters (merge p q) (merge p' q') :=
  paired_mergeEntries (Parameters.same_iff_forall₂.mp hq) hp

end Merging

section Text

variable {s t : Specification}

lemma Matches.filters (h : Matches s t) : s.filters = t.filters := by
  rw [Specification.filters, Specification.filters, h.joins, h.filter]

lemma Matches.selection (h : Matches s t) : s.selection = t.selection := by
  rw [Specification.selection, Specification.selection, h.distinct, h.projection]

lemma Matches.restrictions (h : Matches s t) : s.restrictions = t.restrictions := by
  rw [Specification.restrictions, Specification.restrictions, h.filters, h.grouping, h.groupFilter]

lemma Matches.pagingText (h : Matches s t) : s.pagingText = t.pagingText := by
  rw [Specification.pagingText, Specification.pagingText, paging, paging, h.skip, h.take]

lemma Matches.requireTable (h : Matches s t) : s.requireTable = t.requireTable := by
  rw [Specification.requireTable, Specification.requireTable, h.table]

lemma Matches.tableRows (h : Matches s t) (selected : String) :
    s.tableRows selected = t.tableRows selected := by
  rw [Specification.tableRows, Specification.tableRows, h.requireTable, h.table, h.filters]

end Text

section Validation

variable {ms ns : List (UnionMember Specification)} {cs ds : List (CommonTable Specification)}
variable {d e : Option (DerivedTable Specification)} {s t : Specification}

def ValidatesAlike (s : Specification) : Prop :=
  ∀ t : Specification, s.same t = true → s.validate = t.validate

lemma validateMembers_of_same (h : List.Forall₂ SameMember ms ns)
    (ih : ∀ m ∈ ms, ValidatesAlike m.query) : validateMembers ms = validateMembers ns := by
  induction h with
  | nil => rfl
  | cons hmn _ ihms =>
    obtain ⟨ihm, ihrest⟩ := List.forall_mem_cons.mp ih
    rw [validateMembers, validateMembers, ihm _ hmn.1, ihms ihrest]

lemma validateSource_of_same (h : Option.Rel SameTable d e)
    (ih : ∀ source ∈ d, ValidatesAlike source.query) : validateSource d = validateSource e := by
  cases h with
  | none => rfl
  | some hde => rw [validateSource, validateSource, hde.2, ih _ rfl _ hde.1]

lemma validateCtes_of_same (h : List.Forall₂ SameCte cs ds)
    (ih : ∀ c ∈ cs, ValidatesAlike c.query) : validateCtes cs = validateCtes ds := by
  induction h with
  | nil => rfl
  | cons hcd _ ihcs =>
    obtain ⟨ihc, ihrest⟩ := List.forall_mem_cons.mp ih
    rw [validateCtes, validateCtes, hcd.1, ihc _ hcd.2, ihcs ihrest]

lemma validate_of_same (s : Specification) : ValidatesAlike s := by
  induction s using inductionOn with
  | step s unions source ctes =>
    intro t h
    have hm := same_iff.mp h
    have hclauses : s.clauseTexts = t.clauseTexts := by
      simp only [clauseTexts, hm.projection, hm.joins, hm.filter, hm.grouping, hm.groupFilter,
        hm.ordering]
    rw [validate_eq, validate_eq, hclauses, hm.skip, hm.take,
      validateMembers_of_same hm.unions unions, validateSource_of_same hm.source source,
      validateCtes_of_same hm.ctes ctes]

end Validation

section Drafting

variable {s t : Specification}

structure SameDraft (d e : Draft) : Prop where
  segments : d.segments = e.segments
  parameters : d.parameters.same e.parameters = true

def DraftsAlike (s : Specification) : Prop :=
  ∀ t : Specification, s.same t = true → Paired SameDraft s.draft t.draft

lemma paired_core (h : Matches s t) {p q : Parameters} (hpq : p.same q = true)
    (ih : ∀ d ∈ s.source, DraftsAlike d.query) :
    Paired SameDraft (s.core (s.source.map fun d => (d, d.query.draft)) p)
      (t.core (t.source.map fun d => (d, d.query.draft)) q) := by
  obtain ⟨hs, ht⟩ | ⟨d, e, hs, ht, hde⟩ := rel_cases h.source
  · rw [hs, ht]
    refine .ok ⟨?_, hpq⟩
    rw [h.selection, h.table, h.restrictions]
  · rw [hs, ht]
    refine (ih d hs _ hde.1).bind fun inner inner' hinner =>
      (paired_merge hpq hinner.parameters).bind fun merged merged' hmerged => .ok ⟨?_, hmerged⟩
    rw [hinner.segments, h.selection, h.restrictions, hde.2]

lemma paired_unionText {ms ns : List (UnionMember Specification)}
    (h : List.Forall₂ SameMember ms ns) {p q : Parameters} (hpq : p.same q = true)
    (ih : ∀ m ∈ ms, ∀ d ∈ m.query.source, DraftsAlike d.query) :
    Paired SameDraft (unionText p (ms.map fun m => (m, m.query.outline)))
      (unionText q (ns.map fun m => (m, m.query.outline))) := by
  induction h generalizing p q with
  | nil => exact .ok ⟨rfl, hpq⟩
  | @cons m n ms ns hmn _ ihms =>
    obtain ⟨ihm, ihrest⟩ := List.forall_mem_cons.mp ih
    have hquery := same_iff.mp hmn.1
    rw [List.map_cons, List.map_cons, unionText, unionText, outline_source, outline_source,
      hquery.requireTable, hmn.2]
    refine (Paired.of_eq rfl).bind fun _ _ _ =>
      (paired_merge hpq hquery.parameters).bind fun merged merged' hmerged =>
      (paired_core hquery hmerged ihm).bind fun inner inner' hinner =>
      (ihms hinner.parameters ihrest).bind fun others others' hothers =>
      .ok ⟨?_, hothers.parameters⟩
    rw [hinner.segments, hothers.segments]

lemma find?_of_same {seen seen' : List (CommonTable Specification)}
    (h : List.Forall₂ SameCte seen seen') (name : String) :
    Option.Rel SameCte (seen.find? (·.name == name)) (seen'.find? (·.name == name)) := by
  induction h with
  | nil => exact .none
  | @cons c d cs ds hcd _ ih =>
    rw [List.find?_cons, List.find?_cons, hcd.1]
    cases d.name == name with
    | true => exact .some hcd
    | false => exact ih

structure SameDefinitions (x y : List (List Segment) × Parameters) : Prop where
  parts : x.1 = y.1
  parameters : x.2.same y.2 = true

lemma paired_definitions {cs ds : List (CommonTable Specification)} (h : List.Forall₂ SameCte cs ds)
    {seen seen' : List (CommonTable Specification)} (hseen : List.Forall₂ SameCte seen seen')
    {p q : Parameters} (hpq : p.same q = true) (ih : ∀ c ∈ cs, DraftsAlike c.query) :
    Paired SameDefinitions (definitions seen p (cs.map fun c => (c, c.query.draft)))
      (definitions seen' q (ds.map fun c => (c, c.query.draft))) := by
  induction h generalizing seen seen' p q with
  | nil => exact .ok ⟨rfl, hpq⟩
  | @cons c d cs ds hcd _ ihcs =>
    obtain ⟨ihc, ihrest⟩ := List.forall_mem_cons.mp ih
    rw [List.map_cons, List.map_cons, definitions, definitions, hcd.1]
    obtain ⟨hf, hg⟩ | ⟨f, g, hf, hg, hfg⟩ := rel_cases (find?_of_same hseen d.name)
    · rw [hf, hg]
      refine (ihc _ hcd.2).bind fun inner inner' hinner =>
        (paired_merge hpq hinner.parameters).bind fun merged merged' hmerged =>
        (ihcs (List.rel_append hseen (.cons hcd .nil)) hmerged ihrest).bind fun x y hrest =>
        .ok ⟨?_, hrest.parameters⟩
      rw [hinner.segments, hrest.parts]
    · rw [hf, hg]
      -- what is compared with the first definition is decided alike on either side
      have hdecision : f.query.same c.query = g.query.same d.query :=
        decision_congr (r := same) same_symm same_trans hfg.2 hcd.2
      simp only [hdecision]
      cases g.query.same d.query with
      | true => exact ihcs hseen hpq ihrest
      | false => exact .error _

theorem paired_draft (s : Specification) : DraftsAlike s := by
  induction s using inductionOnTables with
  | step s htables hsource hmembers =>
    intro t h
    have hm := same_iff.mp h
    rw [draft, draft, assemble, assemble, outline_tables, outline_tables, outline_source,
      outline_source, outline_members, outline_members, hm.requireTable, hm.ordering,
      hm.pagingText]
    refine (Paired.of_eq rfl).bind fun _ _ _ =>
      (paired_definitions (forall₂_tables h) .nil hm.parameters htables).bind fun x y hdefined =>
      (paired_core hm hdefined.parameters hsource).bind fun inner inner' hinner =>
      (paired_unionText hm.unions hinner.parameters hmembers).bind fun others others' hothers =>
      .ok ⟨?_, hothers.parameters⟩
    rw [hdefined.parts, hinner.segments, hothers.segments]

end Drafting

structure SameQuery (q r : Query) : Prop where
  sql : q.sql = r.sql
  parameters : q.parameters.same r.parameters = true

variable {s t : Specification}

lemma paired_tableRows (h : Matches s t) (selected : String) (f : String → String) :
    Paired SameQuery ((s.tableRows selected).map fun sql => ⟨f sql, s.parameters⟩)
      ((t.tableRows selected).map fun sql => ⟨f sql, t.parameters⟩) := by
  rw [h.tableRows]
  cases t.tableRows selected with
  | error e => exact .error e
  | ok sql => exact .ok ⟨rfl, h.parameters⟩

theorem compile_congr_same (h : s.same t = true) (dialect : Dialect) (mode : Mode) :
    Paired SameQuery (s.compile dialect mode) (t.compile dialect mode) := by
  have hm := same_iff.mp h
  rw [compile.eq_def, compile.eq_def, validate_of_same s t h]
  refine (Paired.of_eq rfl).bind fun _ _ _ => ?_
  cases mode with
  | rows =>
    refine (paired_draft s t h).bind fun d e hde => .ok ⟨?_, hde.parameters⟩
    rw [hde.segments]
  | count => exact paired_tableRows hm "COUNT(*)" id
  | existence => exact paired_tableRows hm "1" dialect.existence

def positiveZero : Binary64 := ⟨0⟩

def negativeZero : Binary64 := ⟨0x8000000000000000⟩

def ratedOrders (rate : Binary64) : Specification :=
  { table := "orders", filter := "rate = @Rate AND tags = @Tags"
    parameters := (NameMap.empty.insert "Rate" (.float rate)).insert "Tags"
      (.json (.array [.float rate])) }

def ratedReport (rate : Binary64) : Specification :=
  { table := "rated", filter := "rate > @Rate"
    parameters := NameMap.empty.insert "Rate" (.float rate)
    unions := [⟨{ table := "old", ctes := [⟨"rated", ratedOrders rate⟩] }, true⟩]
    ctes := [⟨"rated", ratedOrders rate⟩] }

theorem compile_congr_same_ratedReport :
    (ratedReport positiveZero).same (ratedReport negativeZero) = true ∧
      Paired SameQuery ((ratedReport positiveZero).compile .sqlite .rows)
        ((ratedReport negativeZero).compile .sqlite .rows) ∧
      ((ratedReport positiveZero).compile .sqlite .rows).isOk = true ∧
      positiveZero ≠ negativeZero := by
  have hsame : (ratedReport positiveZero).same (ratedReport negativeZero) = true := by
    decide +kernel
  exact ⟨hsame, compile_congr_same hsame .sqlite .rows, by decide +kernel, by decide⟩

end Specification

end SelectQuery
