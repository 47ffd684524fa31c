import SelectQuery.Proofs.Binding.Rewriting

/-! Where a text that ends outside literals and comments is continued at a seam, its tokens stay. -/

namespace SelectQuery.Binding

def Closed (dialect : Dialect) (cs : List Char) : Prop :=
  ∀ token ∈ tokens dialect cs, token.isClosed = true

instance (dialect : Dialect) (cs : List Char) : Decidable (Closed dialect cs) :=
  inferInstanceAs (Decidable (∀ token ∈ tokens dialect cs, token.isClosed = true))

def isSeam (c : Char) : Bool := Text.isSpace c || c == ')' || c == ','

def Seam (cs : List Char) : Prop := ∀ c, cs.head? = some c → isSeam c = true

variable {dialect : Dialect}

lemma not_inIdentifier_of_isSeam {c : Char} (h : isSeam c = true) : Text.inIdentifier c = false := by
  simp only [isSeam, Bool.or_eq_true, beq_iff_eq] at h
  rcases h with (h | rfl) | rfl
  · exact Text.not_inIdentifier_of_isSpace h
  · decide +kernel
  · decide +kernel

lemma ne_of_isSeam {c d : Char} (h : isSeam c = true) (hd : isSeam d = false) : c ≠ d := by
  rintro rfl
  exact Bool.noConfusion (h.symm.trans hd)

lemma not_isSeam_of_delimiters {opening closing : Char} (h : Delimiters dialect opening closing) :
    isSeam closing = false := by
  cases h <;> rfl

lemma stands_at_seam {token : Token} {rest : List Char} (h : token.Stands dialect [])
    (hclosed : token.isClosed = true) (hseam : Seam rest) : token.Stands dialect rest := by
  have hends : EndsIdentifier rest := fun c hc => not_inIdentifier_of_isSeam (hseam c hc)
  have hhead : ∀ d, isSeam d = false → rest.head? ≠ some d :=
    fun d hd hr => ne_of_isSeam (hseam d hr) hd rfl
  cases token with
  | quoted opening closing body closed =>
    obtain ⟨hd, hb, -⟩ := h
    refine ⟨hd, hb, ?_⟩
    obtain rfl : closed = true := hclosed
    exact hhead closing (not_isSeam_of_delimiters hd)
  | lineComment body closed =>
    obtain rfl : closed = true := hclosed
    exact ⟨h.1, nofun⟩
  | blockComment body closed =>
    obtain rfl : closed = true := hclosed
    exact ⟨h.1, nofun⟩
  | system name => exact ⟨h.1, hends⟩
  | parameter name => exact ⟨h.1, hends⟩
  | other c =>
    refine ⟨h.quoted, fun _ => hhead '*' rfl, fun _ => hhead '-' rfl, fun _ => hhead '@' rfl, ?_⟩
    intro _ d hd
    cases hs : Text.startsIdentifier d with
    | false => rfl
    | true => exact (Text.inIdentifier_of_startsIdentifier hs).symm.trans (hends d hd)

lemma stands_cons_append {token : Token} {c : Char} {rest : List Char}
    (h : token.Stands dialect (c :: rest)) (hclosed : token.isClosed = true) (more : List Char) :
    token.Stands dialect (c :: rest ++ more) := by
  cases token with
  | quoted opening closing body closed =>
    obtain rfl : closed = true := hclosed
    exact h
  | lineComment body closed | blockComment body closed =>
    obtain rfl : closed = true := hclosed
    exact ⟨h.1, nofun⟩
  | system name | parameter name => exact h
  | other c => exact ⟨h.quoted, h.block, h.line, h.system, h.parameter⟩

lemma stands_append {token : Token} {rest more : List Char} (h : token.Stands dialect rest)
    (hclosed : token.isClosed = true) (hseam : Seam more) :
    token.Stands dialect (rest ++ more) := by
  cases rest with
  | nil => exact stands_at_seam h hclosed hseam
  | cons c rest => exact stands_cons_append h hclosed more

lemma tokens_append {cs more : List Char} (hclosed : Closed dialect cs) (hseam : Seam more) :
    tokens dialect (cs ++ more) = tokens dialect cs ++ tokens dialect more := by
  apply tokens_of_tokenisation
  have h := tokenisation_tokens dialect cs
  unfold Closed at hclosed
  generalize tokens dialect cs = ts at h hclosed
  induction h with
  | nil => exact tokenisation_tokens dialect more
  | @cons token rest ts ht _ ih =>
    obtain ⟨htoken, hrest⟩ := List.forall_mem_cons.mp hclosed
    rw [List.append_assoc]
    exact .cons (stands_append ht htoken hseam) (ih hrest)

def isPlain (c : Char) : Bool := c ∉ ['\'', '"', '\x60', '[', '/', '-', '@']

lemma single_of_isPlain {c : Char} (h : isPlain c = true) (rest : List Char) :
    Single dialect c rest := by
  have hne : ∀ d ∈ ['\'', '"', '\x60', '[', '/', '-', '@'], c ≠ d := by
    rintro d hd rfl
    simp [isPlain, hd] at h
  have hmark : c ≠ '@' := hne '@' (by simp)
  refine ⟨?_, fun hc => absurd hc (hne '/' (by simp)), fun hc => absurd hc (hne '-' (by simp)),
    fun hc => absurd hc hmark, fun hc => absurd hc hmark⟩
  intro closing hd
  cases hd with
  | apostrophe => exact hne '\'' (by simp) rfl
  | quotationMark => exact hne '"' (by simp) rfl
  | graveAccent => exact hne '\x60' (by simp) rfl
  | bracket => exact hne '[' (by simp) rfl

lemma tokens_plain_append {cs : List Char} (h : ∀ c ∈ cs, isPlain c = true) (rest : List Char) :
    tokens dialect (cs ++ rest) = cs.map .other ++ tokens dialect rest := by
  induction cs with
  | nil => rfl
  | cons c cs ih =>
    obtain ⟨hc, hcs⟩ := List.forall_mem_cons.mp h
    rw [List.cons_append, tokens_cons, Token.next_single (single_of_isPlain hc _), ih hcs]
    rfl

lemma tokens_of_plain {cs : List Char} (h : ∀ c ∈ cs, isPlain c = true) :
    tokens dialect cs = cs.map .other := by
  have happend : tokens dialect (cs ++ []) = cs.map .other ++ tokens dialect [] :=
    tokens_plain_append h []
  rwa [List.append_nil, tokens, List.append_nil] at happend

end SelectQuery.Binding
