import SelectQuery.Parameters
import SelectQuery.Proofs.Value.Equality

/-! Merging keeps the first value of a name, and stops at the first name whose values differ. -/

namespace SelectQuery

lemma Entries.mem_of_lookup {α : Type} {name : String} {value : α} {entries : List (String × α)}
    (h : entries.lookup name = some value) : (name, value) ∈ entries := by
  obtain ⟨before, after, heq, -⟩ := List.lookup_eq_some_iff.mp h
  simp [heq]

def Value.Alike (v w : Value) : Prop := v = w ∨ v.same w = true

namespace Value.Alike

variable {u v w : Value}

lemma symm (h : Alike v w) : Alike w v := h.imp Eq.symm same_symm

lemma trans_same (h : Alike u v) (h' : v.same w = true) : u.same w = true := by
  rcases h with rfl | h
  · exact h'
  · exact same_trans h h'

end Value.Alike

namespace Parameters

def Agree (p q : Parameters) : Prop :=
  ∀ name v w, p.get? name = some v → q.get? name = some w → v.same w = true

lemma lookup_eq_none_of_ne {name : String} {entries : List (String × Value)}
    (h : ∀ entry ∈ entries, name ≠ entry.1) : entries.lookup name = none := by
  rw [List.lookup_eq_none_iff]
  intro entry he
  simpa using h entry he

variable {p p' r : Parameters} {name : String} {value : Value}
variable {entries : List (String × Value)}

structure Extends (p : Parameters) (name : String) (value : Value) (p' : Parameters) : Prop where
  get? : ∀ n, p'.get? n = (p.get? n).or (if n = name then some value else none)
  same : ∀ v, p.get? name = some v → v.same value = true

lemma extends_insert (h : p.get? name = none) : Extends p name value (p.insert name value) := by
  constructor
  · intro n
    rw [NameMap.get?_insert]
    by_cases hn : n = name
    · subst hn
      simp [h]
    · simp [hn]
  · intro v hv
    rw [h] at hv
    cases hv

lemma extends_self {v : Value} (h : p.get? name = some v) (hs : v.same value = true) :
    Extends p name value p := by
  constructor
  · intro n
    by_cases hn : n = name
    · subst hn
      simp [h]
    · simp [hn]
  · intro w hw
    cases Option.some.inj (h.symm.trans hw)
    exact hs

lemma Extends.get?_of_ne (h : Extends p name value p') {n : String} (hn : n ≠ name) :
    p'.get? n = p.get? n := by
  rw [h.get?, if_neg hn, Option.or_none]

structure Joins (p : Parameters) (entries : List (String × Value)) (r : Parameters) : Prop where
  same : ∀ n v w, p.get? n = some v → entries.lookup n = some w → v.same w = true
  get? : ∀ n, r.get? n = (p.get? n).or (entries.lookup n)

lemma joins_nil (p : Parameters) : Joins p [] p := by
  constructor
  · intro n v w _ hw
    cases hw
  · intro n
    exact (Option.or_none).symm

lemma Joins.cons (he : Extends p name value p') (hnew : entries.lookup name = none)
    (h : Joins p' entries r) : Joins p ((name, value) :: entries) r := by
  constructor
  · intro n v w hv hw
    rw [Entries.lookup_cons] at hw
    by_cases hn : n = name
    · subst hn
      rw [if_pos rfl] at hw
      cases Option.some.inj hw
      exact he.same v hv
    · rw [if_neg hn] at hw
      exact h.same n v w ((he.get?_of_ne hn).trans hv) hw
  · intro n
    rw [h.get?, he.get?, Entries.lookup_cons, Option.or_assoc]
    by_cases hn : n = name
    · subst hn
      simp [hnew]
    · simp [hn]

/-- What is left where merging stops: at the first name whose values differ, with the entries before
it merged. -/
structure Stops (p : Parameters) (entries : List (String × Value)) (name : String)
    (r : Parameters) : Prop where
  clash : ∃ v w, p.get? name = some v ∧ entries.lookup name = some w ∧ v.same w = false
  first : ∀ n v w, n < name → p.get? n = some v → entries.lookup n = some w → v.same w = true
  get? : ∀ n, r.get? n = (p.get? n).or (if n < name then entries.lookup n else none)

lemma stops_here {existing : Value} (hp : p.get? name = some existing)
    (hs : existing.same value = false) (hlater : ∀ entry ∈ entries, name < entry.1) :
    Stops p ((name, value) :: entries) name p := by
  have hbefore : ∀ n < name, List.lookup n ((name, value) :: entries) = none := by
    intro n hn
    refine lookup_eq_none_of_ne (List.forall_mem_cons.mpr ⟨?_, ?_⟩)
    · exact String.ne_of_lt hn
    · exact fun entry he => String.ne_of_lt (String.lt_trans hn (hlater entry he))
  constructor
  · exact ⟨existing, value, hp, by rw [Entries.lookup_cons, if_pos rfl], hs⟩
  · intro n v w hn _ hw
    rw [hbefore n hn] at hw
    cases hw
  · intro n
    split
    · next hn => rw [hbefore n hn, Option.or_none]
    · exact Option.or_none.symm

lemma Stops.cons {first : String} (he : Extends p first value p')
    (hlater : ∀ entry ∈ entries, first < entry.1) (h : Stops p' entries name r) :
    Stops p ((first, value) :: entries) name r := by
  have hnew : entries.lookup first = none :=
    lookup_eq_none_of_ne fun entry hentry => String.ne_of_lt (hlater entry hentry)
  obtain ⟨v, w, hv, hw, hvw⟩ := h.clash
  have hlt : first < name := hlater (name, w) (Entries.mem_of_lookup hw)
  constructor
  · refine ⟨v, w, ?_, ?_, hvw⟩
    · rw [← he.get?_of_ne (String.ne_of_lt hlt).symm, hv]
    · rw [Entries.lookup_cons, if_neg (String.ne_of_lt hlt).symm, hw]
  · intro n v w hn hv hw
    rw [Entries.lookup_cons] at hw
    by_cases hfirst : n = first
    · subst hfirst
      rw [if_pos rfl] at hw
      cases Option.some.inj hw
      exact he.same v hv
    · rw [if_neg hfirst] at hw
      exact h.first n v w hn ((he.get?_of_ne hfirst).trans hv) hw
  · intro n
    rw [h.get?, he.get?, Entries.lookup_cons, Option.or_assoc]
    by_cases hfirst : n = first
    · subst hfirst
      simp [hnew, hlt]
    · simp [hfirst]

lemma mergeEntries_extend (he : Extends p name value p')
    (hlater : ∀ entry ∈ entries, name < entry.1)
    (h : (∃ r, mergeEntries p' entries = .ok r ∧ Joins p' entries r) ∨
      ∃ n q, mergeEntries p' entries = .error ⟨.parameterConflict n, q⟩ ∧ Stops p' entries n q) :
    (∃ r, mergeEntries p' entries = .ok r ∧ Joins p ((name, value) :: entries) r) ∨
      ∃ n q, mergeEntries p' entries = .error ⟨.parameterConflict n, q⟩ ∧
        Stops p ((name, value) :: entries) n q := by
  rcases h with ⟨r, hr, hjoins⟩ | ⟨n, q, hq, hstops⟩
  · have hnew : entries.lookup name = none :=
      lookup_eq_none_of_ne fun entry hentry => String.ne_of_lt (hlater entry hentry)
    exact Or.inl ⟨r, hr, hjoins.cons he hnew⟩
  · exact Or.inr ⟨n, q, hq, hstops.cons he hlater⟩

lemma mergeEntries_cases (p : Parameters) (ho : Entries.Ordered entries) :
    (∃ r, mergeEntries p entries = .ok r ∧ Joins p entries r) ∨
      ∃ n q, mergeEntries p entries = .error ⟨.parameterConflict n, q⟩ ∧ Stops p entries n q := by
  induction entries generalizing p with
  | nil => exact Or.inl ⟨p, rfl, joins_nil p⟩
  | cons entry entries ih =>
    obtain ⟨name, value⟩ := entry
    obtain ⟨hlater, hrest⟩ := List.pairwise_cons.mp ho
    rw [mergeEntries]
    cases hp : p.get? name with
    | none => exact mergeEntries_extend (extends_insert hp) hlater (ih (p.insert name value) hrest)
    | some existing =>
      simp only
      cases hs : existing.same value with
      | false => exact Or.inr ⟨name, p, rfl, stops_here hp hs hlater⟩
      | true => exact mergeEntries_extend (extends_self hp hs) hlater (ih p hrest)

def Clash (p q : Parameters) (name : String) : Prop :=
  ∃ v w, p.get? name = some v ∧ q.get? name = some w ∧ v.same w = false

lemma mergeNested_cases (p q : Parameters) :
    (∃ r, p.mergeNested q = .ok r ∧ Agree p q ∧
      ∀ name, r.get? name = (p.get? name).or (q.get? name)) ∨
    ∃ name r, p.mergeNested q = .error ⟨.parameterConflict name, r⟩ ∧ Clash p q name ∧
      (∀ n < name, ¬ Clash p q n) ∧
      ∀ n, r.get? n = (p.get? n).or (if n < name then q.get? n else none) := by
  rcases mergeEntries_cases p q.ordered with ⟨r, hr, h⟩ | ⟨name, r, hr, h⟩
  · exact Or.inl ⟨r, hr, h.same, h.get?⟩
  · refine Or.inr ⟨name, r, hr, h.clash, ?_, h.get?⟩
    rintro n hn ⟨v, w, hv, hw, hvw⟩
    exact Bool.noConfusion (hvw.symm.trans (h.first n v w hn hv hw))

lemma Clash.not_agree {p q : Parameters} {name : String} (h : Clash p q name) : ¬ Agree p q := by
  obtain ⟨v, w, hv, hw, hvw⟩ := h
  intro ha
  exact Bool.noConfusion (hvw.symm.trans (ha name v w hv hw))

structure Merged (bags : List Parameters) (p : Parameters) : Prop where
  agree : bags.Pairwise Agree
  get? : ∀ name, p.get? name = bags.findSome? (NameMap.get? · name)

namespace Merged

variable {as bs : List Parameters} {a p q r : Parameters}

lemma single (p : Parameters) : Merged [p] p := by
  refine ⟨List.pairwise_singleton _ _, ?_⟩
  intro name
  cases h : p.get? name <;> simp [h]

lemma exists_of_get? (h : Merged as p) {name : String} {v : Value} (hv : p.get? name = some v) :
    ∃ a ∈ as, a.get? name = some v := by
  rw [h.get?] at hv
  exact List.exists_of_findSome?_eq_some hv

lemma alike (h : Merged as p) (ha : a ∈ as) {name : String} {v : Value}
    (hv : a.get? name = some v) : ∃ w, p.get? name = some w ∧ w.Alike v := by
  obtain ⟨hagree, hget⟩ := h
  rw [hget]
  clear hget
  induction as with
  | nil => cases ha
  | cons b as ih =>
    obtain ⟨hb, has⟩ := List.pairwise_cons.mp hagree
    rw [List.findSome?_cons]
    rcases List.mem_cons.mp ha with rfl | ha
    · exact ⟨v, by rw [hv], Or.inl rfl⟩
    · cases hw : NameMap.get? b name with
      | none => exact ih ha has
      | some w => exact ⟨w, rfl, Or.inr (hb a ha name w v hw hv)⟩

lemma agree_iff (hp : Merged as p) (hq : Merged bs q) :
    Agree p q ↔ (as ++ bs).Pairwise Agree := by
  rw [List.pairwise_append]
  constructor
  · intro h
    refine ⟨hp.agree, hq.agree, ?_⟩
    intro a ha b hb name v w hv hw
    obtain ⟨v', hv', hvv⟩ := hp.alike ha hv
    obtain ⟨w', hw', hww⟩ := hq.alike hb hw
    have hm : w'.same v = true := Value.same_symm (hvv.symm.trans_same (h name v' w' hv' hw'))
    exact Value.same_symm (hww.symm.trans_same hm)
  · rintro ⟨-, -, h⟩ name v w hv hw
    obtain ⟨a, ha, hav⟩ := hp.exists_of_get? hv
    obtain ⟨b, hb, hbw⟩ := hq.exists_of_get? hw
    exact h a ha b hb name v w hav hbw

lemma append (hp : Merged as p) (hq : Merged bs q) (h : Agree p q)
    (hr : ∀ name, r.get? name = (p.get? name).or (q.get? name)) : Merged (as ++ bs) r := by
  refine ⟨(hp.agree_iff hq).mp h, ?_⟩
  intro name
  rw [hr, hp.get?, hq.get?, List.findSome?_append]

end Merged

end Parameters

end SelectQuery
