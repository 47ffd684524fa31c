import Mathlib.Data.List.Perm.Basic
import SelectQuery.Proofs.Parameters.Alike
import SelectQuery.Proofs.Query.Congruence
import SelectQuery.Proofs.Query.Text

/-! The order of the members of a union decides neither whether a query compiles nor, up to
equality, which parameters it has. -/

namespace SelectQuery.Specification

open Parameters (Alike Rearranged)

section Tables

variable {cs ds : List (CommonTable Specification)}

lemma forall₂_filter_names {R : CommonTable Specification → CommonTable Specification → Prop}
    (hR : ∀ c d, R c d → c.name = d.name) (p : String → Bool) (h : List.Forall₂ R cs ds) :
    List.Forall₂ R (cs.filter fun c => p c.name) (ds.filter fun d => p d.name) := by
  refine List.rel_filter ?_ h
  intro c d hcd
  simp only [hR c d hcd]

lemma forall₂_firsts (h : List.Forall₂ SameCte cs ds) :
    List.Forall₂ SameCte (firsts cs) (firsts ds) := by
  induction h with
  | nil => exact .nil
  | @cons c d cs ds hcd _ ih =>
    rw [firsts_cons, firsts_cons, hcd.1]
    exact .cons hcd (forall₂_filter_names (fun _ _ h => h.1) (fun name => !(name == d.name)) ih)

lemma AlikeCte.trans {c d e : CommonTable Specification} (h : AlikeCte c d) (h' : AlikeCte d e) :
    AlikeCte c e := by
  rcases h with rfl | h
  · exact h'
  · rcases h' with rfl | h'
    · exact Or.inr h
    · exact Or.inr ⟨h.1.trans h'.1, same_trans h.2 h'.2⟩

lemma consistent_perm (h : cs.Perm ds) : Consistent cs ↔ Consistent ds :=
  h.pairwise_iff fun hcd hname => same_symm (hcd hname.symm)

lemma firsts_cons_cons_of_eq {c d : CommonTable Specification} (h : d.name = c.name)
    (cs : List (CommonTable Specification)) :
    firsts (d :: c :: cs) = d :: (firsts cs).filter fun e => !(e.name == c.name) := by
  simp [firsts_cons, h]

lemma firsts_cons_cons_of_ne {c d : CommonTable Specification} (h : d.name ≠ c.name)
    (cs : List (CommonTable Specification)) :
    firsts (d :: c :: cs) =
      d :: c :: ((firsts cs).filter fun e => !(e.name == c.name)).filter
        fun e => !(e.name == d.name) := by
  have hother : (c.name == d.name) = false := beq_false_of_ne (Ne.symm h)
  rw [firsts_cons, firsts_cons, List.filter_cons_of_pos]
  rw [hother]
  rfl

lemma forall₂_alikeCte_self (cs : List (CommonTable Specification)) :
    List.Forall₂ AlikeCte cs cs :=
  List.forall₂_same.mpr fun _ _ => Or.inl rfl

lemma firsts_perm (h : cs.Perm ds) (hc : Consistent cs) :
    ∃ fs, List.Forall₂ AlikeCte (firsts cs) fs ∧ fs.Perm (firsts ds) := by
  induction h with
  | nil => exact ⟨[], by simp [firsts], by simp [firsts]⟩
  | @cons c cs ds _ ih =>
    obtain ⟨fs, halike, hperm⟩ := ih hc.of_cons
    rw [firsts_cons, firsts_cons]
    exact ⟨c :: fs.filter fun d => !(d.name == c.name), .cons (Or.inl rfl)
      (forall₂_filter_names (fun _ _ => AlikeCte.name) (fun name => !(name == c.name)) halike),
      (hperm.filter _).cons c⟩
  | swap c d cs =>
    by_cases hname : d.name = c.name
    · have hsame := (List.pairwise_cons.mp hc).1 c List.mem_cons_self hname
      rw [firsts_cons_cons_of_eq hname, firsts_cons_cons_of_eq hname.symm, hname]
      exact ⟨_, .cons (Or.inr ⟨hname, hsame⟩) (forall₂_alikeCte_self _), .refl _⟩
    · rw [firsts_cons_cons_of_ne hname, firsts_cons_cons_of_ne (Ne.symm hname), List.filter_comm]
      exact ⟨_, forall₂_alikeCte_self _, .swap _ _ _⟩
  | trans h _ ih ih' =>
    obtain ⟨fs, halike, hperm⟩ := ih hc
    obtain ⟨gs, halike', hperm'⟩ := ih' ((consistent_perm h).mp hc)
    obtain ⟨es, hes, hperm''⟩ := List.perm_comp_forall₂ hperm halike'
    exact ⟨es, forall₂_trans halike hes fun _ _ _ _ h h' => h.trans h', hperm''.trans hperm'⟩

end Tables

section Bags

variable {s t : Specification}

lemma forall₂_source (h : s.same t = true) :
    List.Forall₂ SameTable s.source.toList t.source.toList := by
  obtain ⟨hs, ht⟩ | ⟨d, e, hs, ht, hde⟩ := rel_cases (same_iff.mp h).source
  · rw [hs, ht]
    exact .nil
  · rw [hs, ht]
    exact .cons hde .nil

def Same (s t : Specification) : Prop := s.same t = true

def EmitsAlike (s : Specification) : Prop :=
  ∀ t : Specification, s.same t = true → List.Forall₂ Same s.emitted t.emitted

lemma forall₂_emitted (s : Specification) : EmitsAlike s := by
  induction s using inductionOnTables with
  | step s htables hsource hmembers =>
    intro t h
    rw [emitted_eq, emitted_eq]
    have hself : Same s t := h
    refine List.rel_append (List.rel_append (.cons hself ?_) ?_) ?_
    · exact forall₂_flatMap (forall₂_firsts (forall₂_tables h)) fun c hc d hcd =>
        htables c (mem_of_mem_eraseDupsBy hc) d.query hcd.2
    · exact forall₂_flatMap (forall₂_source h) fun d hd e hde =>
        hsource d (Option.mem_toList.mp hd) e.query hde.1
    · refine forall₂_flatMap (same_iff.mp h).unions fun m hm n hmn => .cons hmn.1 ?_
      exact forall₂_flatMap (forall₂_source hmn.1) fun d hd e hde =>
        hmembers m hm d (Option.mem_toList.mp hd) e.query hde.1

lemma forall₂_bags (h : s.same t = true) : List.Forall₂ Alike s.bags t.bags :=
  forall₂_map (forall₂_emitted s t h) fun _ _ _ h =>
    Parameters.alike_of_same (same_iff.mp h).parameters

lemma rearranged_tableBags {cs ds : List (CommonTable Specification)} (h : cs.Perm ds)
    (hc : Consistent cs) : Rearranged (tableBags (firsts cs)) (tableBags (firsts ds)) := by
  obtain ⟨fs, halike, hperm⟩ := firsts_perm h hc
  refine ⟨tableBags fs, forall₂_flatMap halike ?_, hperm.flatMap_right _⟩
  rintro c - d (rfl | hcd)
  · exact List.forall₂_same.mpr fun p _ => .refl p
  · exact forall₂_bags hcd.2

end Bags

section Members

variable {s : Specification} {ms : List (UnionMember Specification)}

lemma tables_perm (h : s.unions.Perm ms) : s.tables.Perm { s with unions := ms }.tables :=
  (h.flatMap_right _).append_left _

lemma rearranged_bags (h : s.unions.Perm ms) (hs : Consistent s.tables) :
    Rearranged s.bags { s with unions := ms }.bags := by
  rw [bags_eq, bags_eq]
  have hown : Rearranged [s.parameters] [s.parameters] := .of_perm (.refl _)
  have hsource : Rearranged s.sourceBags s.sourceBags := .of_perm (.refl _)
  have hmembers : Rearranged (memberBags s.unions) (memberBags ms) :=
    .of_perm (h.flatMap_right _)
  exact ((hown.append (rearranged_tableBags (tables_perm h) hs)).append hsource).append hmembers

lemma Compiles.rearrange (hs : Compiles s) (h : s.unions.Perm ms) :
    Compiles { s with unions := ms } := by
  have hv := validate_ok_iff.mp hs.valid
  obtain ⟨hproper, htables, hsource, hmembers⟩ := thorough_iff.mp hs.thorough
  have hperm := tables_perm h
  constructor
  · exact validate_ok_iff.mpr ⟨hv.clauses, hv.paging, fun m hm => hv.unions m (h.mem_iff.mpr hm),
      hv.source, hv.ctes⟩
  · refine thorough_iff.mpr ⟨⟨hproper.table, fun m hm => hproper.members m (h.mem_iff.mpr hm),
      (consistent_perm hperm).mp hproper.tables⟩, ?_, hsource, ?_⟩
    · exact fun c hc => htables c (hperm.mem_iff.mpr hc)
    · exact fun m hm => hmembers m (h.mem_iff.mpr hm)
  · exact (rearranged_bags h hproper.tables).pairwise_agree hs.agree

theorem compile_rows_perm (h : s.unions.Perm ms) (dialect : Dialect) :
    ((∃ query, s.compile dialect .rows = .ok query) ↔
      ∃ query, { s with unions := ms }.compile dialect .rows = .ok query) ∧
    ∀ query other, s.compile dialect .rows = .ok query →
      { s with unions := ms }.compile dialect .rows = .ok other →
      Alike query.parameters other.parameters := by
  constructor
  · rw [compiles_iff, compiles_iff]
    have hback : { ({ s with unions := ms } : Specification) with unions := s.unions } = s := by
      cases s
      rfl
    exact ⟨fun hs => hs.rearrange h, fun hs => hback ▸ hs.rearrange h.symm⟩
  · intro query other hquery hother
    have hconsistent := (thorough_iff.mp (compiles_of_compile hquery).1.thorough).1.tables
    have hbags := rearranged_bags h hconsistent
    exact hbags.alike (merged_of_compile hquery) (merged_of_compile hother)

end Members

def ratedMember (rate : Binary64) : UnionMember Specification :=
  ⟨{ table := "old", parameters := NameMap.empty.insert "Rate" (.float rate)
     ctes := [⟨"rated", ratedOrders rate⟩] }, true⟩

def ratedUnion : Specification :=
  { table := "rated", unions := [ratedMember positiveZero, ratedMember negativeZero] }

theorem compile_rows_perm_ratedUnion :
    ratedUnion.unions.Perm [ratedMember negativeZero, ratedMember positiveZero] ∧
      ∃ query other, ratedUnion.compile .postgreSql .rows = .ok query ∧
        { ratedUnion with unions := [ratedMember negativeZero, ratedMember positiveZero] }.compile
          .postgreSql .rows = .ok other ∧
        Alike query.parameters other.parameters := by
  have hperm : ratedUnion.unions.Perm [ratedMember negativeZero, ratedMember positiveZero] :=
    .swap _ _ _
  obtain ⟨query, hquery⟩ : ∃ query, ratedUnion.compile .postgreSql .rows = .ok query :=
    exists_compile_of_isOk (by decide +kernel)
  obtain ⟨hiff, halike⟩ := compile_rows_perm hperm .postgreSql
  obtain ⟨other, hother⟩ := hiff.mp ⟨query, hquery⟩
  exact ⟨hperm, query, other, hquery, hother, halike query other hquery hother⟩

end SelectQuery.Specification
