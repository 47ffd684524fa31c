import Mathlib.Tactic.Lemma
import SelectQuery.Value

/-! Equality of values is symmetric and transitive. It is not reflexive, as no NaN equals itself:
the values that equal themselves are those without a NaN. -/

namespace SelectQuery

namespace Binary64

lemma same_iff {x y : Binary64} :
    x.same y = true ↔
      x.isNaN = false ∧ y.isNaN = false ∧ (x = y ∨ (x.isZero = true ∧ y.isZero = true)) := by
  have hb : x.bits = y.bits ↔ x = y := ⟨fun h => by cases x; cases y; cases h; rfl, congrArg bits⟩
  simp [same, and_assoc, hb]

lemma same_symm {x y : Binary64} (h : x.same y = true) : y.same x = true := by
  obtain ⟨hx, hy, h⟩ := same_iff.mp h
  exact same_iff.mpr ⟨hy, hx, h.imp Eq.symm And.symm⟩

lemma same_trans {x y z : Binary64} (h : x.same y = true) (h' : y.same z = true) :
    x.same z = true := by
  obtain ⟨hx, _, h⟩ := same_iff.mp h
  obtain ⟨_, hz, h'⟩ := same_iff.mp h'
  refine same_iff.mpr ⟨hx, hz, ?_⟩
  rcases h with rfl | ⟨hx0, hy0⟩
  · exact h'
  · rcases h' with rfl | ⟨_, hz0⟩
    · exact Or.inr ⟨hx0, hy0⟩
    · exact Or.inr ⟨hx0, hz0⟩

lemma same_self (x : Binary64) : x.same x = !x.isNaN := by
  simp [same]

end Binary64

namespace Json

mutual

theorem same_symm {a b : Json} (h : a.same b = true) : b.same a = true := by
  cases a <;> cases b <;> simp only [same, Bool.false_eq_true, beq_iff_eq] at h ⊢
  case bool.bool | int.int | string.string => exact h.symm
  case float.float => exact Binary64.same_symm h
  case array.array => exact sameItems_symm h
  case object.object => exact sameMembers_symm h
termination_by structural a

theorem sameItems_symm {as bs : List Json} (h : sameItems as bs = true) :
    sameItems bs as = true := by
  match as, bs with
  | [], [] => rfl
  | a :: as, b :: bs =>
    simp only [sameItems, Bool.and_eq_true] at h ⊢
    exact ⟨same_symm h.1, sameItems_symm h.2⟩
termination_by structural as

theorem sameMembers_symm {as bs : List (String × Json)} (h : sameMembers as bs = true) :
    sameMembers bs as = true := by
  match as, bs with
  | [], [] => rfl
  | (m, a) :: as, (n, b) :: bs =>
    simp only [sameMembers, Bool.and_eq_true, beq_iff_eq] at h ⊢
    exact ⟨⟨h.1.1.symm, same_symm h.1.2⟩, sameMembers_symm h.2⟩
termination_by structural as

end

mutual

theorem same_trans {a b c : Json} (h : a.same b = true) (h' : b.same c = true) :
    a.same c = true := by
  cases a <;> cases b <;> simp only [same, Bool.false_eq_true, beq_iff_eq] at h <;> cases c <;>
    simp only [same, Bool.false_eq_true, beq_iff_eq] at h' ⊢
  case bool.bool.bool | int.int.int | string.string.string => exact h.trans h'
  case float.float.float => exact Binary64.same_trans h h'
  case array.array.array => exact sameItems_trans h h'
  case object.object.object => exact sameMembers_trans h h'
termination_by structural a

theorem sameItems_trans {as bs cs : List Json} (h : sameItems as bs = true)
    (h' : sameItems bs cs = true) : sameItems as cs = true := by
  match as, bs, cs with
  | [], [], [] => rfl
  | a :: as, b :: bs, c :: cs =>
    simp only [sameItems, Bool.and_eq_true] at h h' ⊢
    exact ⟨same_trans h.1 h'.1, sameItems_trans h.2 h'.2⟩
termination_by structural as

theorem sameMembers_trans {as bs cs : List (String × Json)} (h : sameMembers as bs = true)
    (h' : sameMembers bs cs = true) : sameMembers as cs = true := by
  match as, bs, cs with
  | [], [], [] => rfl
  | (m, a) :: as, (n, b) :: bs, (o, c) :: cs =>
    simp only [sameMembers, Bool.and_eq_true, beq_iff_eq] at h h' ⊢
    exact ⟨⟨h.1.1.trans h'.1.1, same_trans h.1.2 h'.1.2⟩, sameMembers_trans h.2 h'.2⟩
termination_by structural as

end

mutual

/-- Whether a NaN stands at any depth. A void part has no value and counts as one. -/
def hasNaN : Json → Bool
  | .float x => x.isNaN
  | .array items => itemsHaveNaN items
  | .object members => membersHaveNaN members
  | .void => true
  | .null | .bool _ | .int _ | .string _ => false

def itemsHaveNaN : List Json → Bool
  | [] => false
  | j :: js => hasNaN j || itemsHaveNaN js

def membersHaveNaN : List (String × Json) → Bool
  | [] => false
  | (_, j) :: ms => hasNaN j || membersHaveNaN ms

end

mutual

theorem same_self (j : Json) : j.same j = !j.hasNaN := by
  cases j with
  | null | bool b | int i | string s | void => simp [same, hasNaN]
  | float x => exact x.same_self
  | array items => exact sameItems_self items
  | object members => exact sameMembers_self members
termination_by structural j

theorem sameItems_self (js : List Json) : sameItems js js = !itemsHaveNaN js := by
  match js with
  | [] => rfl
  | j :: js => rw [sameItems, itemsHaveNaN, same_self j, sameItems_self js, Bool.not_or]
termination_by structural js

theorem sameMembers_self (ms : List (String × Json)) :
    sameMembers ms ms = !membersHaveNaN ms := by
  match ms with
  | [] => rfl
  | (name, j) :: ms =>
    rw [sameMembers, membersHaveNaN, same_self j, sameMembers_self ms, beq_self_eq_true,
      Bool.true_and, Bool.not_or]
termination_by structural ms

end

end Json

namespace Value

theorem same_symm {v w : Value} (h : v.same w = true) : w.same v = true := by
  cases v <;> cases w <;> simp only [same, Bool.false_eq_true, beq_iff_eq] at h ⊢
  case bool.bool | int.int | text.text => exact h.symm
  case float.float => exact Binary64.same_symm h
  case json.json => exact Json.same_symm h

theorem same_trans {u v w : Value} (h : u.same v = true) (h' : v.same w = true) :
    u.same w = true := by
  cases u <;> cases v <;> simp only [same, Bool.false_eq_true, beq_iff_eq] at h <;> cases w <;>
    simp only [same, Bool.false_eq_true, beq_iff_eq] at h' ⊢
  case bool.bool.bool | int.int.int | text.text.text => exact h.trans h'
  case float.float.float => exact Binary64.same_trans h h'
  case json.json.json => exact Json.same_trans h h'

def hasNaN : Value → Bool
  | .float x => x.isNaN
  | .json j => j.hasNaN
  | .null | .bool _ | .int _ | .text _ => false

theorem same_self (v : Value) : v.same v = !v.hasNaN := by
  cases v with
  | null | bool b | int i | text s => simp [same, hasNaN]
  | float x => exact x.same_self
  | json j => exact j.same_self

end Value

end SelectQuery
