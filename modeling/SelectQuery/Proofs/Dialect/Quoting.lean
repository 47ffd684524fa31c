import Mathlib.Data.List.Basic
import SelectQuery.Dialect.Basic

namespace SelectQuery.Quoted

def doubled (closing : Char) (cs : List Char) : List Char :=
  cs.flatMap fun c => if c = closing then [c, c] else [c]

structure Inverse (quote : String → Except Error String) (unquote? : String → Option String)
    (opening closing : Char) : Prop where
  unquote_quote : ∀ name, Text.isBlank name = false →
    ∃ quoted, quote name = .ok quoted ∧ unquote? quoted = some name
  unquote_iff : ∀ quoted name, unquote? quoted = some name ↔
    quoted.toList = opening :: doubled closing name.toList ++ [closing]
  quote_inj : ∀ name other quoted, quote name = .ok quoted → quote other = .ok quoted →
    name = other
  quote_unquote : ∀ quoted name, Text.isBlank name = false → unquote? quoted = some name →
    quote name = .ok quoted

variable {opening closing : Char} {cs : List Char}

lemma encode_eq_doubled (closing : Char) (cs : List Char) :
    encode closing cs = doubled closing cs := by
  induction cs with
  | nil => rfl
  | cons c cs ih =>
    rw [encode, doubled, List.flatMap_cons, ← doubled, ih]
    split
    · next hc =>
      subst hc
      rfl
    · rfl

lemma decode_cons_of_ne {c : Char} (hc : c ≠ closing) (cs : List Char) :
    decode closing (c :: cs) = (decode closing cs).map (c :: ·) := by
  cases cs with
  | nil => simp [decode, hc]
  | cons d cs => rw [decode, if_neg hc]

lemma decode_encode (closing : Char) (cs : List Char) :
    decode closing (encode closing cs) = some cs := by
  induction cs with
  | nil => rfl
  | cons c cs ih =>
    rw [encode]
    split
    · next hc =>
      subst hc
      simp [decode, ih]
    · next hc =>
      rw [decode_cons_of_ne hc, ih]
      rfl

lemma eq_encode_of_decode {name : List Char} (h : decode closing cs = some name) :
    cs = encode closing name := by
  fun_induction decode closing cs generalizing name with
  | case1 =>
    cases h
    rfl
  | case2 => cases h
  | case3 c hc =>
    cases h
    simp [encode, hc]
  | case4 cs ih =>
    obtain ⟨others, hothers, rfl⟩ := Option.map_eq_some_iff.mp h
    rw [encode, if_pos rfl, ← ih hothers]
  | case5 => cases h
  | case6 c d cs hc ih =>
    obtain ⟨others, hothers, rfl⟩ := Option.map_eq_some_iff.mp h
    rw [encode, if_neg hc, ← ih hothers]

lemma decode_eq_some_iff {name : List Char} :
    decode closing cs = some name ↔ cs = encode closing name :=
  ⟨eq_encode_of_decode, fun h => h ▸ decode_encode closing name⟩

lemma inner?_eq_some_iff {body : List Char} :
    inner? opening closing cs = some body ↔ cs = opening :: body ++ [closing] := by
  cases cs with
  | nil => simp [inner?]
  | cons c cs =>
    rw [inner?, List.cons_append, List.cons.injEq]
    constructor
    · intro h
      obtain ⟨hmarks, hbody⟩ := Option.ite_none_right_eq_some.mp h
      obtain rfl := Option.some.inj hbody
      simp only [Bool.and_eq_true, decide_eq_true_eq, beq_iff_eq] at hmarks
      exact ⟨hmarks.1, (List.dropLast_append_getLast? closing hmarks.2).symm⟩
    · rintro ⟨rfl, rfl⟩
      simp

lemma unquote?_eq_some_iff (quoted name : String) (opening closing : Char) :
    unquote? quoted opening closing = some name ↔
      quoted.toList = opening :: doubled closing name.toList ++ [closing] := by
  rw [unquote?, Option.map_eq_some_iff]
  constructor
  · rintro ⟨cs, h, rfl⟩
    obtain ⟨body, hbody, hcs⟩ := Option.bind_eq_some_iff.mp h
    rw [inner?_eq_some_iff.mp hbody, decode_eq_some_iff.mp hcs, encode_eq_doubled,
      String.toList_ofList]
  · intro h
    refine ⟨name.toList, ?_, String.ofList_toList⟩
    rw [inner?_eq_some_iff.mpr h, ← encode_eq_doubled]
    exact decode_encode closing name.toList

lemma quote_eq_ok {name : String} (h : Text.isBlank name = false) (opening closing : Char) :
    quote name opening closing =
      .ok (String.ofList (opening :: encode closing name.toList ++ [closing])) := by
  rw [quote, requireText, h]
  rfl

lemma isBlank_of_quote {name quoted : String} (h : quote name opening closing = .ok quoted) :
    Text.isBlank name = false := by
  cases hblank : Text.isBlank name with
  | false => rfl
  | true =>
    rw [quote, requireText, hblank] at h
    cases h

lemma unquote?_of_quote {name quoted : String} (h : quote name opening closing = .ok quoted) :
    unquote? quoted opening closing = some name := by
  rw [quote_eq_ok (isBlank_of_quote h)] at h
  cases h
  rw [unquote?_eq_some_iff, String.toList_ofList, encode_eq_doubled]

lemma inverse (opening closing : Char) :
    Inverse (quote · opening closing) (unquote? · opening closing) opening closing := by
  constructor
  · intro name hname
    exact ⟨_, quote_eq_ok hname opening closing, unquote?_of_quote (quote_eq_ok hname _ _)⟩
  · exact fun quoted name => unquote?_eq_some_iff quoted name opening closing
  · intro name other quoted hname hother
    have hsame := (unquote?_of_quote hname).symm.trans (unquote?_of_quote hother)
    exact Option.some.inj hsame
  · intro quoted name hname h
    rw [unquote?_eq_some_iff, ← encode_eq_doubled] at h
    rw [quote_eq_ok hname, ← h, String.ofList_toList]

theorem quote_unquote_inverse :
    (∀ opening closing : Char,
      Inverse (quote · opening closing) (unquote? · opening closing) opening closing) ∧
    ∀ dialect : Dialect,
      Inverse dialect.quote dialect.unquote? dialect.quotes.1 dialect.quotes.2 :=
  ⟨inverse, fun dialect => inverse dialect.quotes.1 dialect.quotes.2⟩

example : unquote? "[a]]]]b]" '[' ']' = some "a]]b" := by decide +kernel
example : unquote? "[a]]]b]" '[' ']' = none := by decide +kernel

end SelectQuery.Quoted
