import SelectQuery.Proofs.Parameters.Alike

namespace SelectQuery.Parameters

variable {p q r : Parameters}

def Grows (p r : Parameters) : Prop :=
  ∀ name v, p.get? name = some v → r.get? name = some v

lemma grows_of_get? {more : String → Option Value}
    (h : ∀ name, r.get? name = (p.get? name).or (more name)) : Grows p r := by
  intro name v hv
  rw [h, hv, Option.some_or]

lemma mergeNested_eq_ok : p.mergeNested q = .ok r ↔
    Agree p q ∧ ∀ name, r.get? name = (p.get? name).or (q.get? name) := by
  rcases p.mergeNested_cases q with ⟨s, hs, ha, hget⟩ | ⟨name, s, hs, hclash, -⟩
  · rw [hs]
    constructor
    · intro h
      cases h
      exact ⟨ha, hget⟩
    · rintro ⟨-, hr⟩
      exact congrArg Except.ok (NameMap.eq_of_get? fun name => (hget name).trans (hr name).symm)
  · rw [hs]
    exact ⟨nofun, fun h => absurd h.1 hclash.not_agree⟩

lemma exists_merged (h : Agree p q) : ∃ r, p.mergeNested q = .ok r := by
  rcases p.mergeNested_cases q with ⟨r, hr, -⟩ | ⟨name, r, -, hclash, -⟩
  · exact ⟨r, hr⟩
  · exact absurd h hclash.not_agree

lemma mergeNested_eq_error {stopped : Stopped} (h : p.mergeNested q = .error stopped) :
    ∃ name, stopped.error = .parameterConflict name ∧ Clash p q name ∧
      (∀ n < name, ¬ Clash p q n) ∧
      ∀ n, stopped.parameters.get? n = (p.get? n).or (if n < name then q.get? n else none) := by
  rcases p.mergeNested_cases q with ⟨s, hs, -⟩ | ⟨name, s, hs, hclash, hfirst, hget⟩
  · rw [hs] at h
    cases h
  · rw [hs] at h
    cases h
    exact ⟨name, rfl, hclash, hfirst, hget⟩

lemma grows_mergeNested (p q : Parameters) : Grows p (left (p.mergeNested q)) := by
  cases h : p.mergeNested q with
  | ok r => exact grows_of_get? (mergeNested_eq_ok.mp h).2
  | error stopped =>
    obtain ⟨name, -, -, -, hget⟩ := mergeNested_eq_error h
    exact grows_of_get? hget

def LacksNaN (q : Parameters) : Prop := ∀ name w, q.get? name = some w → w.hasNaN = false

/-- Values that another value equals are no NaN, so only the names that are new can hold one. -/
lemma merged_again_iff (h : p.mergeNested q = .ok r) : r.mergeNested q = .ok r ↔ LacksNaN q := by
  obtain ⟨ha, hget⟩ := mergeNested_eq_ok.mp h
  have hsame : ∀ w : Value, w.same w = true ↔ w.hasNaN = false := by
    intro w
    rw [Value.same_self, Bool.not_eq_true']
  rw [mergeNested_eq_ok]
  constructor
  · rintro ⟨hagree, -⟩ name w hw
    rw [← hsame]
    cases hv : p.get? name with
    | none =>
      have hr : r.get? name = some w := by rw [hget, hv, hw, Option.none_or]
      exact hagree name w w hr hw
    | some v =>
      have hvw := ha name v w hv hw
      exact Value.same_trans (Value.same_symm hvw) hvw
  · intro hq
    constructor
    · intro name v w hv hw
      rw [hget] at hv
      cases hp : p.get? name with
      | none =>
        rw [hp, Option.none_or, hw] at hv
        cases hv
        exact (hsame v).mpr (hq name v hw)
      | some u =>
        rw [hp, Option.some_or] at hv
        cases hv
        exact ha name v w hp hw
    · intro name
      rw [hget, Option.or_assoc, Option.or_self]

lemma alike_of_merged {r' : Parameters} (h : p.mergeNested q = .ok r)
    (h' : q.mergeNested p = .ok r') : Alike r r' := by
  obtain ⟨ha, hget⟩ := mergeNested_eq_ok.mp h
  obtain ⟨-, hget'⟩ := mergeNested_eq_ok.mp h'
  intro name
  rw [hget, hget']
  cases hp : p.get? name with
  | none =>
    cases q.get? name with
    | none => exact .none
    | some w => exact .some (Or.inl rfl)
  | some v =>
    cases hq : q.get? name with
    | none => exact .some (Or.inl rfl)
    | some w => exact .some (Or.inr (ha name v w hp hq))

theorem outcomes_of_mergeNested (p q : Parameters) :
    ((∃ r, p.mergeNested q = .ok r) ↔ Agree p q) ∧
    (∀ r, p.mergeNested q = .ok r →
      (∀ name, r.get? name = (p.get? name).or (q.get? name)) ∧
      (r.mergeNested q = .ok r ↔ LacksNaN q)) ∧
    (∀ stopped, p.mergeNested q = .error stopped → ∃ name,
      stopped.error = .parameterConflict name ∧ Clash p q name ∧ (∀ n < name, ¬ Clash p q n) ∧
      ∀ n, stopped.parameters.get? n = (p.get? n).or (if n < name then q.get? n else none)) ∧
    Grows p (left (p.mergeNested q)) ∧
    (Agree p q → ∃ r r', p.mergeNested q = .ok r ∧ q.mergeNested p = .ok r' ∧ Alike r r') := by
  refine ⟨⟨?_, exists_merged⟩, ?_, fun _ => mergeNested_eq_error, grows_mergeNested p q, ?_⟩
  · rintro ⟨r, hr⟩
    exact (mergeNested_eq_ok.mp hr).1
  · intro r hr
    exact ⟨(mergeNested_eq_ok.mp hr).2, merged_again_iff hr⟩
  · intro h
    obtain ⟨r, hr⟩ := exists_merged h
    obtain ⟨r', hr'⟩ := exists_merged h.symm
    exact ⟨r, r', hr, hr', alike_of_merged hr hr'⟩

def ratedFloor : Parameters := .ofList [("Floor", .float (.zero false)), ("Name", .text "a")]

def negatedFloor : Parameters := .ofList [("Floor", .float (.zero true)), ("Rate", .float .nan)]

def otherName : Parameters :=
  .ofList [("Extra", .int 1), ("Name", .text "b"), ("Zone", .bool true)]

theorem outcomes_of_mergeNested_ratedFloor :
    (∃ r, ratedFloor.mergeNested negatedFloor = .ok r ∧
      r.get? "Floor" = some (.float (.zero false)) ∧ r.get? "Rate" = some (.float .nan) ∧
      r.mergeNested negatedFloor ≠ .ok r) ∧
    ∃ stopped, ratedFloor.mergeNested otherName = .error stopped ∧
      stopped.error = .parameterConflict "Name" ∧
      stopped.parameters.get? "Extra" = some (.int 1) ∧
      stopped.parameters.get? "Name" = some (.text "a") ∧
      stopped.parameters.get? "Zone" = none := by
  constructor
  · obtain ⟨hiff, hmerged, -, -, -⟩ := outcomes_of_mergeNested ratedFloor negatedFloor
    obtain ⟨r, hr⟩ : ∃ r, ratedFloor.mergeNested negatedFloor = .ok r := ⟨_, rfl⟩
    obtain ⟨hget, hagain⟩ := hmerged r hr
    refine ⟨r, hr, hget "Floor", hget "Rate", ?_⟩
    rw [ne_eq, hagain]
    intro hlacks
    exact Bool.noConfusion (hlacks "Rate" _ rfl)
  · obtain ⟨-, -, hstops, -, -⟩ := outcomes_of_mergeNested ratedFloor otherName
    obtain ⟨stopped, hs, herror⟩ : ∃ stopped, ratedFloor.mergeNested otherName = .error stopped ∧
        stopped.error = .parameterConflict "Name" := ⟨_, rfl, rfl⟩
    obtain ⟨name, hname, -, -, hget⟩ := hstops stopped hs
    rw [herror] at hname
    cases hname
    exact ⟨stopped, hs, herror, hget "Extra", hget "Name", hget "Zone"⟩

end SelectQuery.Parameters
