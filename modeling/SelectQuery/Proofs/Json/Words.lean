import Mathlib.Data.List.TakeWhile
import SelectQuery.Json.Token
import SelectQuery.Json.Writer
import SelectQuery.Proofs.Text.Basic

namespace SelectQuery

namespace Json

open Token (inWord ofWord?)

namespace Numeral

lemma isWhole_natDigits (n : Nat) : isWhole (Text.natDigits n) = true := by
  by_cases hn : n = 0
  · subst hn
    rfl
  · have hhead := Text.head_natDigits_ne_zero (Nat.pos_of_ne_zero hn)
    have hne : Text.natDigits n ≠ [] := Nat.toDigits_ne_nil
    cases hd : Text.natDigits n with
    | nil => exact absurd hd hne
    | cons c cs =>
      rw [hd] at hhead
      have hc : c ≠ '0' := fun hc => hhead (by rw [hc]; rfl)
      rw [isWhole.eq_3 c cs fun h _ => hc h]
      exact bne_iff_ne.mpr hc

lemma sign_natDigits (n : Nat) : sign (Text.natDigits n) = (false, Text.natDigits n) := by
  apply sign.eq_2
  intro cs h
  have hc := Text.isAsciiDigit_of_mem_natDigits (h ▸ List.mem_cons_self)
  exact absurd hc (by decide)

lemma takeWhile_natDigits (n : Nat) :
    (Text.natDigits n).takeWhile Text.isAsciiDigit = Text.natDigits n :=
  List.takeWhile_eq_self_iff.mpr fun _ => Text.isAsciiDigit_of_mem_natDigits

lemma dropWhile_natDigits (n : Nat) : (Text.natDigits n).dropWhile Text.isAsciiDigit = [] :=
  List.dropWhile_eq_nil_iff.mpr fun _ => Text.isAsciiDigit_of_mem_natDigits

lemma sign_intDigits (i : Int) :
    sign (Text.intDigits i) = (decide (i < 0), Text.natDigits i.natAbs) := by
  rw [Text.intDigits]
  by_cases hi : i < 0
  · rw [if_pos hi, decide_eq_true hi]
    rfl
  · rw [if_neg hi, decide_eq_false hi, sign_natDigits]

lemma read?_intDigits (i : Int) :
    read? (Text.intDigits i) = some ⟨decide (i < 0), Text.natDigits i.natAbs, [], none⟩ := by
  rw [read?, sign_intDigits]
  simp only [takeWhile_natDigits, dropWhile_natDigits, isWhole_natDigits]
  rfl

lemma value_intDigits (i : WholeNumber) :
    value ⟨decide (i.val < 0), Text.natDigits i.val.natAbs, [], none⟩ = .int i := by
  obtain ⟨i, hlow, hhigh⟩ := i
  simp only [value, Text.ofDigits_natDigits, List.isEmpty_nil, Option.isNone_none, Bool.and_self,
    if_true]
  by_cases hi : i < 0
  · have hbound : 0 < i.natAbs ∧ i.natAbs ≤ 0x8000000000000000 := by omega
    have habs : -(i.natAbs : Int) = i := by omega
    simp only [decide_eq_true hi, if_true, dif_pos hbound, habs]
  · have hbound : i.natAbs < 0x10000000000000000 := by omega
    have habs : (i.natAbs : Int) = i := by omega
    simp only [decide_eq_false hi, Bool.false_eq_true, if_false, dif_pos hbound, habs]

lemma inWord_of_isAsciiDigit {c : Char} (h : Text.isAsciiDigit c = true) : inWord c = true := by
  simp [inWord, h]

lemma inWord_of_exponentDigits? {negative : Bool} {cs : List Char} {e : Int}
    (h : exponentDigits? negative cs = some e) : ∀ c ∈ cs, inWord c = true := by
  rw [exponentDigits?] at h
  split at h
  · cases h
  · next hdigits =>
    simp only [Bool.or_eq_true, Bool.not_eq_true', not_or, Bool.not_eq_false] at hdigits
    exact fun c hc => inWord_of_isAsciiDigit (List.all_eq_true.mp hdigits.2 c hc)

lemma inWord_of_exponent? {cs : List Char} {e : Option Int} (h : exponent? cs = some e) :
    ∀ c ∈ cs, inWord c = true := by
  cases cs with
  | nil => exact nofun
  | cons c cs =>
    rw [exponent?.eq_def] at h
    simp only at h
    split at h
    · next hc =>
      have hmark : inWord c = true := by
        simp only [Bool.or_eq_true, decide_eq_true_eq] at hc
        rcases hc with rfl | rfl <;> decide
      refine List.forall_mem_cons.mpr ⟨hmark, ?_⟩
      split at h
      · obtain ⟨_, hdigits, -⟩ := Option.map_eq_some_iff.mp h
        exact List.forall_mem_cons.mpr ⟨by decide, inWord_of_exponentDigits? hdigits⟩
      · obtain ⟨_, hdigits, -⟩ := Option.map_eq_some_iff.mp h
        exact List.forall_mem_cons.mpr ⟨by decide, inWord_of_exponentDigits? hdigits⟩
      · obtain ⟨_, hdigits, -⟩ := Option.map_eq_some_iff.mp h
        exact inWord_of_exponentDigits? hdigits
    · cases h

lemma inWord_append_dropWhile {cs : List Char}
    (h : ∀ c ∈ cs.dropWhile Text.isAsciiDigit, inWord c = true) : ∀ c ∈ cs, inWord c = true := by
  intro c hc
  rw [← List.takeWhile_append_dropWhile (p := Text.isAsciiDigit) (l := cs)] at hc
  rcases List.mem_append.mp hc with htake | hdrop
  · exact inWord_of_isAsciiDigit (List.mem_takeWhile_imp htake)
  · exact h c hdrop

lemma inWord_of_fraction? {cs digits rest : List Char} (h : fraction? cs = some (digits, rest))
    (hrest : ∀ c ∈ rest, inWord c = true) : ∀ c ∈ cs, inWord c = true := by
  rw [fraction?.eq_def] at h
  split at h
  · simp only at h
    split at h
    · cases h
    · cases h
      exact List.forall_mem_cons.mpr ⟨by decide, inWord_append_dropWhile hrest⟩
  · cases h
    exact hrest

lemma inWord_of_sign {cs : List Char} (h : ∀ c ∈ (sign cs).2, inWord c = true) :
    ∀ c ∈ cs, inWord c = true := by
  rw [sign.eq_def] at h
  split at h
  · exact List.forall_mem_cons.mpr ⟨by decide, h⟩
  · exact h

lemma inWord_of_read? {cs : List Char} {n : Numeral} (h : read? cs = some n) :
    cs ≠ [] ∧ ∀ c ∈ cs, inWord c = true := by
  constructor
  · rintro rfl
    cases h
  · simp only [read?, Option.bind_eq_bind] at h
    split at h
    · cases h
    · obtain ⟨⟨digits, rest⟩, hfraction, hexponent⟩ := Option.bind_eq_some_iff.mp h
      obtain ⟨e, hexponent, -⟩ := Option.bind_eq_some_iff.mp hexponent
      have hrest := inWord_of_fraction? hfraction (inWord_of_exponent? hexponent)
      exact inWord_of_sign (inWord_append_dropWhile hrest)

lemma ofWord?_of_read? {cs : List Char} {n : Numeral} (h : read? cs = some n) :
    ofWord? cs = some (.scalar n.value) := by
  have hne : ∀ name ∈ ["null".toList, "true".toList, "false".toList], cs ≠ name := by
    have hnames : ∀ name ∈ ["null".toList, "true".toList, "false".toList],
        (read? name).isNone = true := by decide
    rintro name hname rfl
    have hnone := hnames cs hname
    rw [h] at hnone
    cases hnone
  rw [ofWord?, if_neg (hne _ (by simp)), if_neg (hne _ (by simp)), if_neg (hne _ (by simp)), h]
  rfl

end Numeral

def Restored (x : Binary64) : Prop :=
  (Numeral.read? (numberLayout.write x)).map Numeral.value = some (.float x)

def finite (x : Binary64) : Json := if x.isFinite then .float x else .null

structure IsWord (cs : List Char) (j : Json) : Prop where
  nonempty : cs ≠ []
  inWord : ∀ c ∈ cs, inWord c = true
  read : ofWord? cs = some (.scalar j)

lemma isWord_null : IsWord "null".toList .null := ⟨by decide, List.all_eq_true.mp rfl, rfl⟩

lemma isWord_bool (b : Bool) :
    IsWord (if b then "true".toList else "false".toList) (.bool b) := by
  cases b
  · exact ⟨by decide, List.all_eq_true.mp rfl, rfl⟩
  · exact ⟨by decide, List.all_eq_true.mp rfl, rfl⟩

lemma isWord_of_read? {cs : List Char} {n : Numeral} (h : Numeral.read? cs = some n) :
    IsWord cs n.value :=
  ⟨(Numeral.inWord_of_read? h).1, (Numeral.inWord_of_read? h).2, Numeral.ofWord?_of_read? h⟩

lemma isWord_int (i : WholeNumber) : IsWord (Text.intDigits i.val) (.int i) := by
  have hword := isWord_of_read? (Numeral.read?_intDigits i.val)
  rwa [Numeral.value_intDigits] at hword

lemma isWord_float {x : Binary64} (h : x.isFinite = true → Restored x) :
    IsWord (writeFloat x) (finite x) := by
  rw [writeFloat, finite]
  cases hx : x.isFinite with
  | true =>
    obtain ⟨n, hn, hvalue⟩ := Option.map_eq_some_iff.mp (h hx)
    rw [if_pos rfl, if_pos rfl, ← hvalue]
    exact isWord_of_read? hn
  | false => exact isWord_null

end Json

end SelectQuery
