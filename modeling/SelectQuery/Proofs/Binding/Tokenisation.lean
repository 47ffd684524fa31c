import Mathlib.Tactic.Lemma
import SelectQuery.Binding.Token
import SelectQuery.Proofs.Text.Basic

/-! The lexical grammar of SQL texts. Each text has one reading as tokens, the one that the scanner
finds. -/

namespace SelectQuery.Binding

inductive Delimiters (dialect : Dialect) : Char → Char → Prop
  | apostrophe : Delimiters dialect '\'' '\''
  | quotationMark : Delimiters dialect '"' '"'
  | graveAccent : Delimiters dialect '\x60' '\x60'
  | bracket : dialect = .sqlServer → Delimiters dialect '[' ']'

inductive QuotedBody (closing : Char) : List Char → Prop
  | nil : QuotedBody closing []
  | char {c body} : c ≠ closing → QuotedBody closing body → QuotedBody closing (c :: body)
  | pair {body} : QuotedBody closing body → QuotedBody closing (closing :: closing :: body)

def EndsIdentifier (rest : List Char) : Prop :=
  ∀ c, rest.head? = some c → Text.inIdentifier c = false

structure Single (dialect : Dialect) (c : Char) (rest : List Char) : Prop where
  quoted : ∀ closing, ¬ Delimiters dialect c closing
  block : c = '/' → rest.head? ≠ some '*'
  line : c = '-' → rest.head? ≠ some '-'
  system : c = '@' → rest.head? ≠ some '@'
  parameter : c = '@' → ∀ d, rest.head? = some d → Text.startsIdentifier d = false

def Token.Stands (dialect : Dialect) : Token → List Char → Prop
  | .quoted opening closing body closed, rest =>
    Delimiters dialect opening closing ∧ QuotedBody closing body ∧
      if closed then rest.head? ≠ some closing else rest = []
  | .lineComment body closed, rest => '\n' ∉ body ∧ (closed = false → rest = [])
  | .blockComment body closed, rest => ¬ ['*', '/'] <:+: body ∧ (closed = false → rest = [])
  | .system name, rest => (∀ c ∈ name, Text.inIdentifier c = true) ∧ EndsIdentifier rest
  | .parameter name, rest => Text.IsIdentifier name ∧ EndsIdentifier rest
  | .other c, rest => Single dialect c rest

inductive Tokenisation (dialect : Dialect) : List Char → List Token → Prop
  | nil : Tokenisation dialect [] []
  | cons {token rest tokens} : token.Stands dialect rest → Tokenisation dialect rest tokens →
      Tokenisation dialect (token.source ++ rest) (token :: tokens)

variable {dialect : Dialect}

lemma delimiters_iff {opening closing : Char} :
    Delimiters dialect opening closing ↔ Token.closing? dialect opening = some closing := by
  constructor
  · intro h
    cases h with
    | apostrophe | quotationMark | graveAccent => rfl
    | bracket hd => simp [Token.closing?, hd]
  · intro h
    rw [Token.closing?] at h
    split at h
    · next hc =>
      cases Option.some.inj h
      simp only [Bool.or_eq_true, decide_eq_true_eq] at hc
      rcases hc with (rfl | rfl) | rfl
      · exact .apostrophe
      · exact .quotationMark
      · exact .graveAccent
    · split at h
      · next hc =>
        cases Option.some.inj h
        simp only [Bool.and_eq_true, decide_eq_true_eq] at hc
        obtain ⟨rfl, hd⟩ := hc
        exact .bracket hd
      · cases h

lemma not_delimiters_iff {opening : Char} :
    (∀ closing, ¬ Delimiters dialect opening closing) ↔ Token.closing? dialect opening = none := by
  rw [Option.eq_none_iff_forall_ne_some]
  exact forall_congr' fun closing => not_congr delimiters_iff

namespace Token

lemma quotedBody_append {closing : Char} {body rest : List Char} (h : QuotedBody closing body)
    (hr : rest.head? ≠ some closing) :
    quotedBody closing (body ++ closing :: rest) = (body, true, rest) := by
  induction h with
  | nil =>
    cases rest with
    | nil => simp [quotedBody]
    | cons d rest =>
      have hd : d ≠ closing := fun h => hr (by simp [h])
      simp [quotedBody, hd]
  | @char c body hc _ ih =>
    cases body with
    | nil => simp_all [quotedBody]
    | cons d body => simp_all [quotedBody]
  | pair _ ih => simp [quotedBody, ih]

lemma quotedBody_unclosed {closing : Char} {body : List Char} (h : QuotedBody closing body) :
    quotedBody closing body = (body, false, []) := by
  induction h with
  | nil => rfl
  | @char c body hc _ ih =>
    cases body with
    | nil => simp [quotedBody, hc]
    | cons d body => simp [quotedBody, hc, ih]
  | pair _ ih => simp [quotedBody, ih]

lemma quotedBody_sound (closing : Char) (cs : List Char) :
    QuotedBody closing (quotedBody closing cs).1 ∧
      cs = (quotedBody closing cs).1 ++
        (if (quotedBody closing cs).2.1 then [closing] else []) ++ (quotedBody closing cs).2.2 ∧
      if (quotedBody closing cs).2.1 then (quotedBody closing cs).2.2.head? ≠ some closing
      else (quotedBody closing cs).2.2 = [] := by
  fun_induction quotedBody closing cs with
  | case1 => exact ⟨.nil, rfl, rfl⟩
  | case2 => exact ⟨.nil, rfl, by simp⟩
  | case3 c hc => exact ⟨.char hc .nil, rfl, rfl⟩
  | case4 cs body closed rest he ih =>
    rw [he] at ih
    obtain ⟨hb, hs, hr⟩ := ih
    exact ⟨.pair hb, by simpa using hs, hr⟩
  | case5 d cs hd => exact ⟨.nil, rfl, by simpa using hd⟩
  | case6 c d cs hc body closed rest he ih =>
    rw [he] at ih
    obtain ⟨hb, hs, hr⟩ := ih
    exact ⟨.char hc hb, by simpa using hs, hr⟩

lemma lineBody_append {body rest : List Char} (h : '\n' ∉ body) :
    lineBody (body ++ '\n' :: rest) = (body, true, rest) := by
  induction body with
  | nil => simp [lineBody]
  | cons c body ih =>
    rw [List.mem_cons, not_or] at h
    obtain ⟨hc, hb⟩ := h
    simp [lineBody, Ne.symm hc, ih hb]

lemma lineBody_unclosed {body : List Char} (h : '\n' ∉ body) :
    lineBody body = (body, false, []) := by
  induction body with
  | nil => rfl
  | cons c body ih =>
    rw [List.mem_cons, not_or] at h
    obtain ⟨hc, hb⟩ := h
    simp [lineBody, Ne.symm hc, ih hb]

lemma lineBody_sound (cs : List Char) :
    '\n' ∉ (lineBody cs).1 ∧
      cs = (lineBody cs).1 ++ (if (lineBody cs).2.1 then ['\n'] else []) ++ (lineBody cs).2.2 ∧
      ((lineBody cs).2.1 = false → (lineBody cs).2.2 = []) := by
  fun_induction lineBody cs with
  | case1 => simp
  | case2 => simp
  | case3 c cs hc body closed rest he ih =>
    rw [he] at ih
    obtain ⟨hb, hs, hr⟩ := ih
    refine ⟨?_, by simpa using hs, hr⟩
    rw [List.mem_cons, not_or]
    exact ⟨Ne.symm hc, hb⟩

lemma star_slash_infix_cons {c : Char} {cs : List Char} :
    ['*', '/'] <:+: c :: cs ↔ (c = '*' ∧ cs.head? = some '/') ∨ ['*', '/'] <:+: cs := by
  rw [List.infix_cons_iff, List.cons_prefix_cons]
  refine or_congr_left (and_congr eq_comm ?_)
  cases cs <;> simp [eq_comm]

lemma blockBody_append {body rest : List Char} (h : ¬ ['*', '/'] <:+: body) :
    blockBody (body ++ '*' :: '/' :: rest) = (body, true, rest) := by
  induction body with
  | nil => simp [blockBody]
  | cons c body ih =>
    rw [star_slash_infix_cons, not_or] at h
    cases body with
    | nil => simp [blockBody]
    | cons d body =>
      have hc : ¬ (c = '*' ∧ d = '/') := by simpa using h.1
      have hb := ih h.2
      simp only [List.cons_append] at hb
      simp [blockBody, hc, hb]

lemma blockBody_unclosed {body : List Char} (h : ¬ ['*', '/'] <:+: body) :
    blockBody body = (body, false, []) := by
  induction body with
  | nil => rfl
  | cons c body ih =>
    rw [star_slash_infix_cons, not_or] at h
    cases body with
    | nil => rfl
    | cons d body =>
      have hc : ¬ (c = '*' ∧ d = '/') := by simpa using h.1
      simp [blockBody, hc, ih h.2]

lemma blockBody_sound (cs : List Char) :
    ¬ ['*', '/'] <:+: (blockBody cs).1 ∧
      cs = (blockBody cs).1 ++ (if (blockBody cs).2.1 then ['*', '/'] else []) ++
        (blockBody cs).2.2 ∧
      ((blockBody cs).2.1 = false → (blockBody cs).2.2 = []) := by
  fun_induction blockBody cs with
  | case1 => simp
  | case2 c => simp [star_slash_infix_cons]
  | case3 c d cs hc =>
    simp only [Bool.and_eq_true, decide_eq_true_eq] at hc
    simp [hc]
  | case4 c d cs hc body closed rest he ih =>
    rw [he] at ih
    obtain ⟨hb, hs, hr⟩ := ih
    refine ⟨?_, by simpa using hs, hr⟩
    rw [star_slash_infix_cons, not_or]
    refine ⟨?_, hb⟩
    rintro ⟨rfl, hd⟩
    cases body with
    | nil => simp at hd
    | cons e body =>
      have hde : d = e := (List.cons.inj hs).1
      subst hde
      exact hc (by simpa using hd)

lemma inIdentifier_of_mem_takeWhile {c : Char} {cs : List Char}
    (h : c ∈ cs.takeWhile Text.inIdentifier) : Text.inIdentifier c = true :=
  List.all_eq_true.mp List.all_takeWhile c h

lemma endsIdentifier_dropWhile (cs : List Char) :
    EndsIdentifier (cs.dropWhile Text.inIdentifier) := by
  intro c hc
  have h := List.head?_dropWhile_not Text.inIdentifier cs
  rw [hc] at h
  exact h

lemma takeWhile_identifier {name rest : List Char} (h : ∀ c ∈ name, Text.inIdentifier c = true)
    (hr : EndsIdentifier rest) : (name ++ rest).takeWhile Text.inIdentifier = name := by
  rw [List.takeWhile_append_of_pos h]
  cases rest with
  | nil => simp
  | cons c rest => simp [hr c rfl]

lemma dropWhile_identifier {name rest : List Char} (h : ∀ c ∈ name, Text.inIdentifier c = true)
    (hr : EndsIdentifier rest) : (name ++ rest).dropWhile Text.inIdentifier = rest := by
  rw [List.dropWhile_append_of_pos h]
  cases rest with
  | nil => rfl
  | cons c rest => simp [hr c rfl]

lemma isIdentifier_takeWhile {d : Char} (rest : List Char) (hd : Text.startsIdentifier d = true) :
    Text.IsIdentifier ((d :: rest).takeWhile Text.inIdentifier) := by
  rw [List.takeWhile_cons_of_pos (Text.inIdentifier_of_startsIdentifier hd)]
  exact ⟨hd, List.all_takeWhile⟩

lemma next_sound (dialect : Dialect) (c : Char) (cs : List Char) :
    (next dialect c cs).1.Stands dialect (next dialect c cs).2 ∧
      c :: cs = (next dialect c cs).1.source ++ (next dialect c cs).2 := by
  fun_cases next dialect c cs with
  | case1 cs closing hc body closed rest he =>
    have hbody := quotedBody_sound closing cs
    rw [he] at hbody
    obtain ⟨hb, hs, hr⟩ := hbody
    exact ⟨⟨delimiters_iff.mpr hc, hb, hr⟩, congrArg (c :: ·) hs⟩
  | case2 hc =>
    exact ⟨⟨not_delimiters_iff.mpr hc, by simp, by simp, by simp, by simp⟩, rfl⟩
  | case3 hc d cs h body closed rest he =>
    simp only [Bool.and_eq_true, decide_eq_true_eq] at h
    obtain ⟨rfl, rfl⟩ := h
    have hbody := blockBody_sound cs
    rw [he] at hbody
    obtain ⟨hb, hs, hr⟩ := hbody
    exact ⟨⟨hb, hr⟩, congrArg ('/' :: '*' :: ·) hs⟩
  | case4 hc d cs _ h body closed rest he =>
    simp only [Bool.and_eq_true, decide_eq_true_eq] at h
    obtain ⟨rfl, rfl⟩ := h
    have hbody := lineBody_sound cs
    rw [he] at hbody
    obtain ⟨hb, hs, hr⟩ := hbody
    exact ⟨⟨hb, hr⟩, congrArg ('-' :: '-' :: ·) hs⟩
  | case5 hc cs hmark =>
    subst hmark
    refine ⟨⟨fun c h => inIdentifier_of_mem_takeWhile h, endsIdentifier_dropWhile cs⟩, ?_⟩
    exact congrArg ('@' :: '@' :: ·) List.takeWhile_append_dropWhile.symm
  | case6 hc d cs _ _ hmark _ hd =>
    subst hmark
    refine ⟨⟨isIdentifier_takeWhile cs hd, endsIdentifier_dropWhile (d :: cs)⟩, ?_⟩
    exact congrArg ('@' :: ·) List.takeWhile_append_dropWhile.symm
  | case7 hc d cs hblock hline _ hsystem hd =>
    refine ⟨⟨not_delimiters_iff.mpr hc, ?_, ?_, ?_, ?_⟩, rfl⟩
    · exact fun hc hd => hblock (by simpa [hc] using hd)
    · exact fun hc hd => hline (by simpa [hc] using hd)
    · exact fun _ hd => hsystem (Option.some.inj hd)
    · intro _ e he
      cases Option.some.inj he
      simpa using hd
  | case8 hc d cs hblock hline hmark =>
    refine ⟨⟨not_delimiters_iff.mpr hc, ?_, ?_, fun h => absurd h hmark, fun h => absurd h hmark⟩,
      rfl⟩
    · exact fun hc hd => hblock (by simpa [hc] using hd)
    · exact fun hc hd => hline (by simpa [hc] using hd)

lemma next_single {c : Char} {rest : List Char} (h : Single dialect c rest) :
    next dialect c rest = (.other c, rest) := by
  rw [next.eq_def, not_delimiters_iff.mp h.quoted]
  cases rest with
  | nil => rfl
  | cons d rest =>
    have hblock : ¬ (c = '/' ∧ d = '*') := fun hc => h.block hc.1 (by rw [hc.2]; rfl)
    have hline : ¬ (c = '-' ∧ d = '-') := fun hc => h.line hc.1 (by rw [hc.2]; rfl)
    have hsystem : c = '@' → d ≠ '@' := fun hc hd => h.system hc (by rw [hd]; rfl)
    have hparameter : c = '@' → Text.startsIdentifier d = false :=
      fun hc => h.parameter hc d rfl
    by_cases hc : c = '@'
    · simp [hc, hsystem hc, hparameter hc, Dialect.parameterMark]
    · simp [hblock, hline, hc, Dialect.parameterMark]

lemma next_complete {token : Token} {rest : List Char} (h : token.Stands dialect rest) :
    ∃ c cs, token.source ++ rest = c :: cs ∧ next dialect c cs = (token, rest) := by
  cases token with
  | quoted opening closing body closed =>
    obtain ⟨hd, hb, hr⟩ := h
    refine ⟨opening, _, rfl, ?_⟩
    rw [next.eq_def, delimiters_iff.mp hd]
    cases closed with
    | true => simp [quotedBody_append hb hr]
    | false =>
      obtain rfl : rest = [] := hr
      simp [quotedBody_unclosed hb]
  | lineComment body closed =>
    obtain ⟨hb, hr⟩ := h
    refine ⟨'-', _, rfl, ?_⟩
    cases closed with
    | true => simp [next, closing?, lineBody_append hb]
    | false =>
      obtain rfl : rest = [] := hr rfl
      simp [next, closing?, lineBody_unclosed hb]
  | blockComment body closed =>
    obtain ⟨hb, hr⟩ := h
    refine ⟨'/', _, rfl, ?_⟩
    cases closed with
    | true => simp [next, closing?, blockBody_append hb]
    | false =>
      obtain rfl : rest = [] := hr rfl
      simp [next, closing?, blockBody_unclosed hb]
  | system name =>
    obtain ⟨hn, hr⟩ := h
    refine ⟨'@', _, rfl, ?_⟩
    simp [next, closing?, Dialect.parameterMark, takeWhile_identifier hn hr,
      dropWhile_identifier hn hr]
  | parameter name =>
    obtain ⟨hn, hr⟩ := h
    cases name with
    | nil => exact hn.elim
    | cons d name =>
      have hall := Text.inIdentifier_of_isIdentifier hn
      have hd : d ≠ '@' := by
        rintro rfl
        exact absurd hn.1 (by decide +kernel)
      refine ⟨'@', d :: (name ++ rest), rfl, ?_⟩
      have htake := takeWhile_identifier hall hr
      have hdrop := dropWhile_identifier hall hr
      rw [List.cons_append] at htake hdrop
      simp [next, closing?, Dialect.parameterMark, hd, hn.1, htake, hdrop]
  | other c => exact ⟨c, rest, rfl, next_single h⟩

end Token

lemma tokens_cons (dialect : Dialect) (c : Char) (cs : List Char) :
    tokens dialect (c :: cs) =
      (Token.next dialect c cs).1 :: tokens dialect (Token.next dialect c cs).2 := by
  rw [tokens]

lemma tokenisation_tokens (dialect : Dialect) (cs : List Char) :
    Tokenisation dialect cs (tokens dialect cs) := by
  fun_induction tokens dialect cs with
  | case1 => exact .nil
  | case2 c cs ih =>
    obtain ⟨ht, hs⟩ := Token.next_sound dialect c cs
    exact hs ▸ .cons ht ih

lemma tokens_of_tokenisation {cs : List Char} {ts : List Token} (h : Tokenisation dialect cs ts) :
    tokens dialect cs = ts := by
  induction h with
  | nil => rw [tokens]
  | @cons token rest ts ht _ ih =>
    obtain ⟨c, cs, hs, hn⟩ := Token.next_complete ht
    rw [hs, tokens_cons, hn, ih]

theorem tokenisation_iff {cs : List Char} {ts : List Token} :
    Tokenisation dialect cs ts ↔ ts = tokens dialect cs := by
  constructor
  · exact fun h => (tokens_of_tokenisation h).symm
  · rintro rfl
    exact tokenisation_tokens dialect cs

end SelectQuery.Binding
