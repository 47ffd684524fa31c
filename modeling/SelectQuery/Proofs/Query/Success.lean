import SelectQuery.Proofs.Query.Drafting

namespace SelectQuery.Specification

open Parameters (Agree Merged)

variable {s : Specification} {dialect : Dialect}

lemma thorough_iff_emits : Thorough s ↔
    (∀ q, Emits s q → Text.isBlank q.table = false) ∧ ∀ t, Writes s t → Consistent t.tables := by
  constructor
  · intro h
    refine ⟨?_, fun t ht => (h t ht).tables⟩
    rintro q ⟨t, ht, rfl | ⟨m, hm, rfl⟩⟩
    · exact (h q ht).table
    · exact (h t ht).members m hm
  · rintro ⟨htables, hconsistent⟩ t ht
    exact ⟨htables t ⟨t, ht, Or.inl rfl⟩, fun m hm => htables _ ⟨t, ht, Or.inr ⟨m, hm, rfl⟩⟩,
      hconsistent t ht⟩

lemma pairwise_bags_iff (s : Specification) : s.bags.Pairwise Agree ↔
    s.emitted.Pairwise fun p q => Agree p.parameters q.parameters := by
  rw [bags, List.pairwise_map]

lemma draft_ok {draft : Draft} (h : s.draft = .ok draft) :
    (Thorough s ∧ s.bags.Pairwise Agree) ∧ Merged s.bags draft.parameters := by
  have hs := drafted s
  rw [Drafted, h] at hs
  exact hs

lemma draft_error {e : Error} (h : s.draft = .error e) :
    ¬ (Thorough s ∧ s.bags.Pairwise Agree) ∧ DraftError e := by
  have hs := drafted s
  rw [Drafted, h] at hs
  exact hs

theorem compile_rows_ok_iff (s : Specification) (dialect : Dialect) :
    ((∃ query, s.compile dialect .rows = .ok query) ↔
      s.validate = .ok () ∧ (∀ q, Emits s q → Text.isBlank q.table = false) ∧
        (∀ t, Writes s t → Consistent t.tables) ∧
        s.emitted.Pairwise fun p q => Agree p.parameters q.parameters) ∧
    (s.validate = .ok () → ∀ e, s.compile dialect .rows = .error e →
      e = missingTable ∨ (∃ name, e = repeatedCte name) ∨ ∃ name, e = .parameterConflict name) := by
  constructor
  · rw [← pairwise_bags_iff, ← and_assoc (a := ∀ q, _), ← thorough_iff_emits]
    constructor
    · rintro ⟨query, h⟩
      obtain ⟨hv, draft, hd, -⟩ := compile_rows_eq_ok_iff.mp h
      exact ⟨hv, (draft_ok hd).1⟩
    · rintro ⟨hv, hs⟩
      cases hd : s.draft with
      | error e => exact absurd hs (draft_error hd).1
      | ok draft => exact ⟨_, compile_rows_eq_ok_iff.mpr ⟨hv, draft, hd, rfl⟩⟩
  · intro hv e h
    cases (draft_error (compile_rows_eq_error hv h)).2 with
    | table => exact Or.inl rfl
    | cte name => exact Or.inr (Or.inl ⟨name, rfl⟩)
    | conflict name => exact Or.inr (Or.inr ⟨name, rfl⟩)

lemma merged_of_compile {query : Query} (h : s.compile dialect .rows = .ok query) :
    Merged s.bags query.parameters := by
  obtain ⟨-, draft, hdraft, rfl⟩ := compile_rows_eq_ok_iff.mp h
  exact (draft_ok hdraft).2

theorem get?_parameters_compile {query : Query} (h : s.compile dialect .rows = .ok query) :
    (∀ name, query.parameters.get? name = s.emitted.findSome? (·.parameters.get? name)) ∧
    (∀ name, (query.parameters.get? name).isSome = true ↔
      ∃ q, Emits s q ∧ (q.parameters.get? name).isSome = true) ∧
    ∀ name v, s.parameters.get? name = some v → query.parameters.get? name = some v := by
  obtain ⟨-, draft, hd, rfl⟩ := compile_rows_eq_ok_iff.mp h
  obtain ⟨⟨hs, -⟩, hm⟩ := draft_ok hd
  have hget : ∀ name,
      draft.parameters.get? name = s.emitted.findSome? (·.parameters.get? name) := by
    intro name
    rw [hm.get?, bags, List.findSome?_map]
    rfl
  refine ⟨hget, ?_, ?_⟩
  · intro name
    rw [hget, List.findSome?_isSome_iff]
    constructor
    · rintro ⟨q, hq, hn⟩
      exact ⟨q, emits_of_mem_emitted hq, hn⟩
    · rintro ⟨q, hq, hn⟩
      exact exists_mem_emitted hs hq hn
  · intro name v hv
    rw [hget, emitted_eq, List.append_assoc, List.cons_append, List.findSome?_cons, hv]

def largeOrders : Specification :=
  { table := "orders", filter := "total > @Floor AND note <> '@Name'"
    parameters := NameMap.empty.insert "Floor" (.int 5) }

def namedOrders : Specification :=
  { table := "large", filter := "name = @Name", ordering := "name -- @Nobody\n"
    parameters := NameMap.empty.insert "Name" (.text "a")
    unions := [⟨{ table := "old", source := some ⟨largeOrders, "o"⟩ }, true⟩]
    ctes := [⟨"large", largeOrders⟩] }

lemma exists_compile_of_isOk (h : (s.compile dialect .rows).isOk = true) :
    ∃ query, s.compile dialect .rows = .ok query := by
  cases hq : s.compile dialect .rows with
  | error e =>
    rw [hq] at h
    cases h
  | ok query => exact ⟨query, rfl⟩

lemma exists_compile_namedOrders (dialect : Dialect) :
    ∃ query, namedOrders.compile dialect .rows = .ok query := by
  apply exists_compile_of_isOk
  cases dialect <;> decide +kernel

theorem get?_parameters_compile_namedOrders :
    ∃ query, namedOrders.compile .sqlite .rows = .ok query ∧
      query.parameters.get? "Name" = some (.text "a") ∧
      (query.parameters.get? "Floor").isSome = true := by
  obtain ⟨query, hq⟩ := exists_compile_namedOrders .sqlite
  obtain ⟨-, hnames, hown⟩ := get?_parameters_compile hq
  have hwritten : Emits namedOrders largeOrders :=
    ⟨largeOrders, .table List.mem_cons_self .self, Or.inl rfl⟩
  refine ⟨query, hq, hown "Name" _ rfl, ?_⟩
  exact (hnames "Floor").mpr ⟨largeOrders, hwritten, by decide +kernel⟩

end SelectQuery.Specification
