import Mathlib.Tactic.Lemma
import SelectQuery.Dialect.Basic
import SelectQuery.Parameters

namespace SelectQuery

namespace Text

lemma ofDigits_natDigits (n : Nat) : ofDigits (natDigits n) = n := Nat.ofDigitChars_ten_toDigits

lemma isAsciiDigit_of_mem_natDigits {n : Nat} {c : Char} (h : c ∈ natDigits n) :
    isAsciiDigit c = true :=
  Nat.isDigit_of_mem_toDigits (by decide) (by decide) h

lemma head_natDigits_ne_zero {n : Nat} (h : 0 < n) : (natDigits n).head? ≠ some '0' := by
  induction n using Nat.strongRecOn with
  | ind n ih =>
    rw [natDigits]
    by_cases hn : n < 10
    · have hdigit : ∀ m < 10, 0 < m → Nat.digitChar m ≠ '0' := by decide
      rw [Nat.toDigits_of_lt_base hn]
      exact fun hzero => hdigit n hn h (Option.some.inj hzero)
    · have hquotient : 0 < n / 10 := by omega
      have hhead := ih (n / 10) (by omega) hquotient
      rw [Nat.toDigits_of_base_le (by decide) (by omega), List.head?_append]
      cases hd : Nat.toDigits 10 (n / 10) with
      | nil => exact absurd hd Nat.toDigits_ne_nil
      | cons c cs =>
        rw [natDigits, hd] at hhead
        exact hhead

lemma natDigits_inj {m n : Nat} (h : natDigits m = natDigits n) : m = n := by
  rw [← ofDigits_natDigits m, h, ofDigits_natDigits]

lemma ofNat_inj {m n : Nat} (h : ofNat m = ofNat n) : m = n :=
  natDigits_inj (String.ofList_injective h)

lemma inIdentifier_of_isAsciiDigit {c : Char} (h : isAsciiDigit c = true) :
    inIdentifier c = true := by
  have hlow : c.toNat < 0x80 := by
    simp only [isAsciiDigit, Bool.and_eq_true, decide_eq_true_eq] at h
    exact Nat.lt_of_le_of_lt h.2 (by decide)
  simp [inIdentifier, isNumeric, hlow, h]

def spaces : List Nat :=
  List.range' 0x09 5 ++ [0x20, 0x85, 0xA0, 0x1680] ++ List.range' 0x2000 11 ++
    [0x2028, 0x2029, 0x202F, 0x205F, 0x3000]

lemma mem_spaces_of_isSpace {c : Char} (h : isSpace c = true) : c.toNat ∈ spaces := by
  simp only [isSpace, Bool.or_eq_true, Bool.and_eq_true, decide_eq_true_eq, beq_iff_eq] at h
  simp only [spaces, List.mem_append, List.mem_range'_1, List.mem_cons, List.not_mem_nil, or_false]
  omega

lemma not_inIdentifier_of_mem_spaces :
    ∀ n ∈ spaces, inIdentifier (Char.ofNat n) = false := by decide +kernel

lemma not_inIdentifier_of_isSpace {c : Char} (h : isSpace c = true) : inIdentifier c = false := by
  have hc := not_inIdentifier_of_mem_spaces c.toNat (mem_spaces_of_isSpace h)
  rwa [Char.ofNat_toNat] at hc

lemma inIdentifier_of_isIdentifier {cs : List Char} (h : IsIdentifier cs) :
    ∀ c ∈ cs, inIdentifier c = true := by
  cases cs with
  | nil => exact h.elim
  | cons c cs =>
    intro d hd
    rcases List.mem_cons.mp hd with rfl | hd
    · exact inIdentifier_of_startsIdentifier h.1
    · exact List.all_eq_true.mp h.2 d hd

lemma not_inIdentifier_mark : inIdentifier Dialect.parameterMark = false := by decide +kernel

lemma not_isSpace_of_inIdentifier {c : Char} (h : inIdentifier c = true) : isSpace c = false := by
  cases hc : isSpace c with
  | false => rfl
  | true => exact h.symm.trans (not_inIdentifier_of_isSpace hc)

lemma trimLeft_of_inIdentifier {cs : List Char} (h : ∀ c ∈ cs, inIdentifier c = true) :
    trimLeft cs = cs := by
  cases cs with
  | nil => rfl
  | cons c cs =>
    have hc := not_isSpace_of_inIdentifier (h c List.mem_cons_self)
    simp [trimLeft, hc]

lemma trim_of_inIdentifier {cs : List Char} (h : ∀ c ∈ cs, inIdentifier c = true) :
    trim cs = cs := by
  have hr : trimLeft cs.reverse = cs.reverse :=
    trimLeft_of_inIdentifier fun c hc => h c (List.mem_reverse.mp hc)
  rw [trim, trimLeft_of_inIdentifier h, trimRight]
  change (trimLeft cs.reverse).reverse = cs
  rw [hr, List.reverse_reverse]

end Text

namespace Parameters

lemma normalName_of_inIdentifier {cs : List Char} (h : ∀ c ∈ cs, Text.inIdentifier c = true) :
    normalName (String.ofList cs) = String.ofList cs := by
  have hd : cs.dropWhile (· == '@') = cs := by
    cases cs with
    | nil => rfl
    | cons c cs =>
      have hc : c ≠ '@' := by
        rintro rfl
        exact Bool.noConfusion (Text.not_inIdentifier_mark.symm.trans (h '@' List.mem_cons_self))
      simp [hc]
  rw [normalName, String.toList_ofList, Text.trim_of_inIdentifier h, hd,
    Text.trimLeft_of_inIdentifier h]

lemma value?_of_inIdentifier (parameters : Parameters) {cs : List Char}
    (h : ∀ c ∈ cs, Text.inIdentifier c = true) :
    parameters.value? (String.ofList cs) = parameters.get? (String.ofList cs) := by
  rw [value?, normalName_of_inIdentifier h]

end Parameters

end SelectQuery
