import SelectQuery.Proofs.Query.Paging
import SelectQuery.Proofs.Specification.Rules

namespace SelectQuery.Specification

open Segment

section Written

variable {s t : Specification}

lemma exists_mem_written (hs : Thorough s) (ht : Writes s t) :
    ∃ u ∈ s.written, u.paging = t.paging := by
  induction s using inductionOnTables generalizing t with
  | step s htables hsource hmembers =>
    obtain ⟨hproper, hthorough, hsources, hmembersources⟩ := thorough_iff.mp hs
    cases ht with
    | self => exact ⟨s, mem_written_iff.mpr (Or.inl rfl), rfl⟩
    | table hc ht =>
      -- the table may be passed over for the first one of its name, which has an equal query
      obtain ⟨f, hf, hfc⟩ := exists_mem_firsts hproper.tables hc
      have hft := mem_of_mem_eraseDupsBy hf
      obtain ⟨v, hv, hvt⟩ : ∃ v, Writes f.query v ∧ v.paging = t.paging := by
        rcases hfc with rfl | hfc
        · exact ⟨t, ht, rfl⟩
        · obtain ⟨v, hv, hvt⟩ := writes_of_same hfc.2 ht
          have hmatches := same_iff.mp hvt
          exact ⟨v, hv, by rw [paging, paging, hmatches.skip, hmatches.take]⟩
      obtain ⟨u, hu, huv⟩ := htables f hft (hthorough f hft) hv
      exact ⟨u, mem_written_iff.mpr (Or.inr (Or.inl ⟨f, hf, hu⟩)), huv.trans hvt⟩
    | source hd ht =>
      obtain ⟨u, hu, hut⟩ := hsource _ hd (hsources _ hd) ht
      exact ⟨u, mem_written_iff.mpr (Or.inr (Or.inr (Or.inl ⟨_, hd, hu⟩))), hut⟩
    | member hm hd ht =>
      obtain ⟨u, hu, hut⟩ := hmembers _ hm _ hd (hmembersources _ hm _ hd) ht
      exact ⟨u, mem_written_iff.mpr (Or.inr (Or.inr (Or.inr ⟨_, hm, _, hd, hu⟩))), hut⟩

lemma nested_of_writes (h : Writes s t) : Nested s t := by
  induction h with
  | self => exact .self
  | table hc _ ih =>
    rcases List.mem_append.mp hc with hc | hc
    · exact .part (mem_parts.mpr (Or.inr (Or.inr ⟨_, hc, rfl⟩))) ih
    · obtain ⟨m, hm, hc⟩ := List.mem_flatMap.mp hc
      exact .part (mem_parts.mpr (Or.inl ⟨m, hm, rfl⟩))
        (.part (mem_parts.mpr (Or.inr (Or.inr ⟨_, hc, rfl⟩))) ih)
  | source hd _ ih => exact .part (mem_parts.mpr (Or.inr (Or.inl ⟨_, hd, rfl⟩))) ih
  | member hm hd _ ih =>
    exact .part (mem_parts.mpr (Or.inl ⟨_, hm, rfl⟩))
      (.part (mem_parts.mpr (Or.inr (Or.inl ⟨_, hd, rfl⟩))) ih)

lemma segment_mem_of_window_mem {skip take : UInt64} {segments : List Segment}
    (h : (skip, take) ∈ windows segments) : .paging skip take ∈ segments := by
  obtain ⟨segment, hsegment, hwindow⟩ := List.mem_filterMap.mp h
  cases segment with
  | text text => cases hwindow
  | paging n m =>
    cases hwindow
    exact hsegment

lemma paging_mem_layout (hs : Thorough s) (ht : Writes s t) {skip take : UInt64}
    (h : t.paging = some (skip, take)) : .paging skip take ∈ s.layout := by
  obtain ⟨u, hu, hut⟩ := exists_mem_written hs ht
  apply segment_mem_of_window_mem
  rw [windows_layout]
  exact List.mem_filterMap.mpr ⟨u, hu, hut.trans h⟩

end Written

lemma validate_of_compile {s : Specification} {dialect : Dialect} {mode : Mode} {query : Query}
    (h : s.compile dialect mode = .ok query) : s.validate = .ok () := by
  obtain ⟨_, hv, -⟩ := bind_eq_ok h
  exact hv

theorem outcomes_of_validate (s : Specification) :
    (s.validate = .ok () ↔ ∀ t, Nested s t → Keeps t) ∧
    (∀ e, s.validate = .error e ↔ ∃ before rule after, s.rules = before ++ rule :: after ∧
      (∀ r ∈ before, r.kept = true) ∧ rule.kept = false ∧ rule.breach = e) ∧
    (∀ dialect mode query, s.compile dialect mode = .ok query →
      ∀ t, Nested s t → t.skip.isSome = t.take.isSome) ∧
    ∀ dialect query, s.compile dialect .rows = .ok query →
      query.sql = renderAll dialect s.layout ∧ windows s.layout = pagings s.written ∧
      ∀ t, Writes s t → t.skip.isSome ∨ t.take.isSome → ∃ skip take, t.skip = some skip ∧
        t.take = some take ∧ .paging skip take ∈ s.layout := by
  refine ⟨validate_ok_iff_nested, fun e => ?_, fun dialect mode query h t ht => ?_,
    fun dialect query h => ?_⟩
  · rw [validate_eq_verdict, Rule.verdict_eq_error]
  · have hkeeps := validate_ok_iff_nested.mp (validate_of_compile h) t ht
    rcases hkeeps.paging with ⟨hskip, htake⟩ | ⟨skip, take, hskip, htake, -⟩
    · rw [hskip, htake]
    · rw [hskip, htake]
      rfl
  · obtain ⟨hv, draft, hd, rfl⟩ := compile_rows_eq_layout.mp h
    refine ⟨rfl, windows_layout s, fun t ht hset => ?_⟩
    have hkeeps := validate_ok_iff_nested.mp hv t (nested_of_writes ht)
    rcases hkeeps.paging with ⟨hskip, htake⟩ | ⟨skip, take, hskip, htake, -⟩
    · rw [hskip, htake] at hset
      exact absurd hset (by decide)
    · have hpaging : t.paging = some (skip, take) := by
        rw [paging, hskip, htake]
        rfl
      exact ⟨skip, take, hskip, htake, paging_mem_layout (draft_ok hd).1.1 ht hpaging⟩

def secondPage : Specification := { table := "orders", skip := some 20, take := some 10 }

def archivedOrders : Specification := { table := "archive", unions := [⟨secondPage, true⟩] }

theorem unpaged_secondPage :
    secondPage.paging = some (20, 10) ∧
    (∃ query, secondPage.compile .sqlite .count = .ok query ∧
      ¬ (Dialect.sqlite.paging 20 10).toList <:+: query.sql.toList) ∧
    Nested archivedOrders secondPage ∧
    ∃ query, archivedOrders.compile .sqlite .rows = .ok query ∧
      ¬ (Dialect.sqlite.paging 20 10).toList <:+: query.sql.toList := by
  refine ⟨rfl, ⟨⟨"SELECT COUNT(*) FROM orders", .empty⟩, rfl, by decide +kernel⟩, ?_, ?_⟩
  · exact .part List.mem_cons_self .self
  · exact ⟨⟨"SELECT * FROM archive UNION ALL SELECT * FROM orders", .empty⟩, rfl,
      by decide +kernel⟩

end SelectQuery.Specification
