import SelectQuery.Proofs.Binding.Quotation

namespace SelectQuery.Binding

def isMark (c : Char) : Bool := c == '@' || c == '$' || c == '?'

def Follows (rest other : List Char) : Prop :=
  other.head? = rest.head? ∨
    rest.head? = some '@' ∧ ∃ c, other.head? = some c ∧ isMark c = true

def Token.substituted (σ : List Char → List Token) : Token → List Token
  | .parameter name => σ name
  | token => [token]

def substituted (σ : List Char → List Token) (ts : List Token) : List Token :=
  ts.flatMap (Token.substituted σ)

structure Substitute (dialect : Dialect) (us : List Token) : Prop where
  head : ∃ c, (us.flatMap Token.source).head? = some c ∧ isMark c = true
  tokens : ∀ rest, EndsIdentifier rest →
    tokens dialect (us.flatMap Token.source ++ rest) = us ++ tokens dialect rest

variable {dialect : Dialect} {rest other : List Char}

lemma not_inIdentifier_of_isMark {c : Char} (h : isMark c = true) :
    Text.inIdentifier c = false := by
  simp only [isMark, Bool.or_eq_true, beq_iff_eq] at h
  rcases h with (rfl | rfl) | rfl <;> decide +kernel

lemma not_isMark_of_delimiters {opening closing : Char} (h : Delimiters dialect opening closing) :
    isMark closing = false := by
  cases h <;> rfl

namespace Follows

lemma eq_nil (h : Follows rest other) (hrest : rest = []) : other = [] := by
  subst hrest
  rcases h with h | ⟨h, -⟩
  · exact List.head?_eq_none_iff.mp h
  · cases h

lemma head?_ne (h : Follows rest other) {c : Char} (hc : isMark c = false)
    (hrest : rest.head? ≠ some c) : other.head? ≠ some c := by
  rcases h with h | ⟨-, d, hd, hmark⟩
  · rwa [h]
  · rw [hd]
    rintro heq
    cases heq
    exact Bool.noConfusion (hmark.symm.trans hc)

lemma endsIdentifier (h : Follows rest other) (hrest : EndsIdentifier rest) :
    EndsIdentifier other := by
  intro c hc
  rcases h with h | ⟨-, d, hd, hmark⟩
  · exact hrest c (h ▸ hc)
  · obtain rfl : d = c := Option.some.inj (hd.symm.trans hc)
    exact not_inIdentifier_of_isMark hmark

lemma single (h : Follows rest other) {c : Char} (hs : Single dialect c rest) :
    Single dialect c other := by
  -- a mark takes no other mark behind it, so behind one the text starts as it did
  have hmark : c = '@' → other.head? = rest.head? := fun hc =>
    h.resolve_right fun hat => hs.system hc hat.1
  refine ⟨hs.quoted, fun hc => h.head?_ne rfl (hs.block hc), fun hc => h.head?_ne rfl (hs.line hc),
    ?_, ?_⟩
  · intro hc
    rw [hmark hc]
    exact hs.system hc
  · intro hc
    rw [hmark hc]
    exact hs.parameter hc

lemma stands (h : Follows rest other) {token : Token} (ht : token.Stands dialect rest) :
    token.Stands dialect other := by
  cases token with
  | quoted opening closing body closed =>
    obtain ⟨hd, hb, hr⟩ := ht
    refine ⟨hd, hb, ?_⟩
    cases closed with
    | true => exact h.head?_ne (not_isMark_of_delimiters hd) hr
    | false => exact h.eq_nil hr
  | lineComment body closed | blockComment body closed =>
    exact ⟨ht.1, fun hclosed => h.eq_nil (ht.2 hclosed)⟩
  | system name | parameter name => exact ⟨ht.1, h.endsIdentifier ht.2⟩
  | other c => exact h.single ht

end Follows

lemma source_ne_nil (token : Token) : token.source ≠ [] := by
  cases token <;> exact List.cons_ne_nil _ _

lemma substituted_of_other {σ : List Char → List Token} {token : Token}
    (h : token.parameter? = none) : token.substituted σ = [token] := by
  cases token with
  | parameter name => cases h
  | quoted | lineComment | blockComment | system | other => rfl

lemma eq_parameter {token : Token} {name : String} (h : token.parameter? = some name) :
    token = .parameter name.toList := by
  cases token with
  | parameter cs =>
    obtain rfl := Option.some.inj h
    rw [String.toList_ofList]
  | quoted | lineComment | blockComment | system | other => cases h

lemma tokens_substituted_of_tokenisation {σ : List Char → List Token}
    (hσ : ∀ name, Text.IsIdentifier name → Substitute dialect (σ name)) {cs : List Char}
    {ts : List Token} (h : Tokenisation dialect cs ts) :
    tokens dialect ((substituted σ ts).flatMap Token.source) = substituted σ ts ∧
      Follows cs ((substituted σ ts).flatMap Token.source) := by
  induction h with
  | nil =>
    refine ⟨?_, Or.inl rfl⟩
    exact tokens_of_tokenisation .nil
  | @cons token rest ts ht _ ih =>
    obtain ⟨ih, hfollows⟩ := ih
    have hstands := hfollows.stands ht
    rw [substituted, List.flatMap_cons, ← substituted, List.flatMap_append]
    cases hp : token.parameter? with
    | none =>
      rw [substituted_of_other hp, List.flatMap_singleton, tokens_source_append hstands, ih]
      refine ⟨rfl, Or.inl ?_⟩
      rw [List.head?_append_of_ne_nil _ (source_ne_nil token),
        List.head?_append_of_ne_nil _ (source_ne_nil token)]
    | some name =>
      obtain rfl := eq_parameter hp
      obtain ⟨hname, hends⟩ := hstands
      obtain ⟨⟨c, hc, hmark⟩, htokens⟩ := hσ name.toList hname
      rw [Token.substituted, htokens _ hends, ih]
      exact ⟨rfl, Or.inr ⟨rfl, c, by simp [List.head?_append, hc], hmark⟩⟩

lemma tokens_substituted {σ : List Char → List Token}
    (hσ : ∀ name, Text.IsIdentifier name → Substitute dialect (σ name)) (cs : List Char) :
    tokens dialect ((substituted σ (tokens dialect cs)).flatMap Token.source) =
      substituted σ (tokens dialect cs) :=
  (tokens_substituted_of_tokenisation hσ (tokenisation_tokens dialect cs)).1

end SelectQuery.Binding
