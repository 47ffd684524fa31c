import SelectQuery.Proofs.Parameters.Names
import SelectQuery.Proofs.Specification.Equality

namespace SelectQuery

namespace NameMap

variable {α : Type} {map p q : NameMap α}

lemma mem_entries_iff {entry : String × α} :
    entry ∈ map.entries ↔ map.get? entry.1 = some entry.2 := by
  constructor
  · exact fun h => get?_of_mem h
  · exact fun h => Entries.mem_of_lookup h

lemma entries_nodup (map : NameMap α) : map.entries.Nodup := by
  refine map.ordered.imp ?_
  rintro a b hab rfl
  exact String.lt_irrefl _ hab

lemma eq_of_get? (h : ∀ name, p.get? name = q.get? name) : p = q := by
  have hperm : p.entries.Perm q.entries := by
    rw [List.perm_ext_iff_of_nodup p.entries_nodup q.entries_nodup]
    intro entry
    rw [mem_entries_iff, mem_entries_iff, h]
  have heq : p.entries = q.entries := by
    refine hperm.eq_of_pairwise ?_ p.ordered q.ordered
    intro a b _ _ hab hba
    exact absurd (String.lt_trans hab hba) (String.lt_irrefl _)
  cases p
  cases q
  congr

end NameMap

lemma Value.Alike.trans {u v w : Value} (h : Alike u v) (h' : Alike v w) : Alike u w := by
  rcases h' with rfl | h'
  · exact h
  · exact Or.inr (h.trans_same h')

namespace Parameters

def Alike (p q : Parameters) : Prop :=
  ∀ name, Option.Rel Value.Alike (p.get? name) (q.get? name)

variable {p q p' q' : Parameters} {as bs : List Parameters}

lemma Alike.refl (p : Parameters) : Alike p p := by
  intro name
  cases p.get? name with
  | none => exact .none
  | some v => exact .some (Or.inl rfl)

lemma Alike.symm (h : Alike p q) : Alike q p :=
  fun name => rel_flip (h name) fun _ _ _ h => h.symm

lemma alike_of_same (h : p.same q = true) : Alike p q := by
  intro name
  obtain ⟨hp, hq⟩ | ⟨v, w, hp, hq, hvw⟩ := rel_cases (get?_of_same h name)
  · rw [hp, hq]
    exact .none
  · rw [hp, hq]
    exact .some (Or.inr hvw)

lemma Alike.exists_left (h : Alike p q) {name : String} {w : Value} (hw : q.get? name = some w) :
    ∃ v, p.get? name = some v ∧ v.Alike w := by
  have hname := h name
  rw [hw] at hname
  cases hv : p.get? name <;> rw [hv] at hname <;> cases hname
  case some v hvw => exact ⟨v, rfl, hvw⟩

lemma Agree.symm (h : Agree p q) : Agree q p :=
  fun name v w hv hw => Value.same_symm (h name w v hw hv)

lemma Agree.congr (h : Agree p q) (hp : Alike p p') (hq : Alike q q') : Agree p' q' := by
  intro name v' w' hv' hw'
  obtain ⟨v, hv, hvv⟩ := hp.exists_left hv'
  obtain ⟨w, hw, hww⟩ := hq.exists_left hw'
  have hmixed : v'.same w = true := hvv.symm.trans_same (h name v w hv hw)
  exact Value.same_symm (hww.symm.trans_same (Value.same_symm hmixed))

def Rearranged (as bs : List Parameters) : Prop :=
  ∃ cs, List.Forall₂ Alike as cs ∧ cs.Perm bs

namespace Rearranged

lemma of_perm (h : as.Perm bs) : Rearranged as bs :=
  ⟨as, List.forall₂_same.mpr fun p _ => .refl p, h⟩

lemma append {as' bs' : List Parameters} (h : Rearranged as bs) (h' : Rearranged as' bs') :
    Rearranged (as ++ as') (bs ++ bs') := by
  obtain ⟨cs, halike, hperm⟩ := h
  obtain ⟨cs', halike', hperm'⟩ := h'
  exact ⟨cs ++ cs', List.rel_append halike halike', hperm.append hperm'⟩

lemma exists_left (h : Rearranged as bs) {q : Parameters} (hq : q ∈ bs) :
    ∃ p ∈ as, Alike p q := by
  obtain ⟨cs, halike, hperm⟩ := h
  exact forall₂_exists_left halike (hperm.mem_iff.mpr hq)

lemma exists_right (h : Rearranged as bs) (hp : p ∈ as) : ∃ q ∈ bs, Alike p q := by
  obtain ⟨cs, halike, hperm⟩ := h
  have hflip : List.Forall₂ (fun q p => Alike p q) cs as := forall₂_flip halike fun _ _ _ h => h
  obtain ⟨q, hq, hpq⟩ := forall₂_exists_left hflip hp
  exact ⟨q, hperm.mem_iff.mp hq, hpq⟩

lemma pairwise_agree (h : Rearranged as bs) (ha : as.Pairwise Agree) : bs.Pairwise Agree := by
  obtain ⟨cs, halike, hperm⟩ := h
  rw [← hperm.pairwise_iff Agree.symm]
  exact pairwise_of_forall₂ halike ha fun _ _ _ _ hp hq h => h.congr hp hq

lemma alike (h : Rearranged as bs) (hp : Merged as p) (hq : Merged bs q) : Alike p q := by
  intro name
  cases hv : p.get? name with
  | none =>
    cases hw : q.get? name with
    | none => exact .none
    | some w =>
      obtain ⟨b, hb, hbw⟩ := hq.exists_of_get? hw
      obtain ⟨a, ha, hab⟩ := h.exists_left hb
      obtain ⟨v, hav, -⟩ := hab.exists_left hbw
      obtain ⟨v', hv', -⟩ := hp.alike ha hav
      rw [hv] at hv'
      cases hv'
  | some v =>
    obtain ⟨a, ha, hav⟩ := hp.exists_of_get? hv
    obtain ⟨b, hb, hab⟩ := h.exists_right ha
    obtain ⟨w, hbw, hwv⟩ := hab.symm.exists_left hav
    obtain ⟨u, hu, huw⟩ := hq.alike hb hbw
    rw [hu]
    exact .some (huw.trans hwv).symm

end Rearranged

end Parameters

end SelectQuery
