import SelectQuery.Proofs.Binding.Pieces
import SelectQuery.Proofs.Binding.Quotation

/-! The end of a text. What is open there takes in the characters behind it, and text that neither
opens nor closes anything is copied behind every text. -/

namespace SelectQuery.Binding

def endsNothing (c : Char) : Bool := c ∉ ['\'', '"', '\x60', ']', '\n', '/']

variable {dialect : Dialect} {more : List Char}

section Open

lemma ne_of_endsNothing {c d : Char} (h : endsNothing c = true)
    (hd : d ∈ ['\'', '"', '\x60', ']', '\n', '/']) : c ≠ d := by
  rintro rfl
  simp [endsNothing, hd] at h

lemma ne_of_delimiters {opening closing c : Char} (hd : Delimiters dialect opening closing)
    (h : endsNothing c = true) : c ≠ closing := by
  cases hd <;> exact ne_of_endsNothing h (by simp)

lemma quotedBody_append_of_ends {closing : Char} {body : List Char} (h : QuotedBody closing body)
    (hmore : ∀ c ∈ more, c ≠ closing) : QuotedBody closing (body ++ more) := by
  induction h with
  | nil =>
    induction more with
    | nil => exact .nil
    | cons c more ih =>
      obtain ⟨hc, hrest⟩ := List.forall_mem_cons.mp hmore
      exact .char hc (ih hrest)
  | char hc _ ih => exact .char hc ih
  | pair _ ih => exact .pair ih

lemma not_star_slash_append {body : List Char} (h : ¬ ['*', '/'] <:+: body) (hmore : '/' ∉ more) :
    ¬ ['*', '/'] <:+: body ++ more := by
  induction body with
  | nil => exact fun hpart => hmore (hpart.subset (by simp))
  | cons c body ih =>
    rw [Token.star_slash_infix_cons, not_or] at h
    rw [List.cons_append, Token.star_slash_infix_cons, not_or]
    refine ⟨?_, ih h.2⟩
    rintro ⟨hc, hslash⟩
    cases body with
    | nil => exact hmore (List.mem_of_mem_head? hslash)
    | cons d body => exact h.1 ⟨hc, hslash⟩

lemma eq_nil_of_tokenisation {ts : List Token} (h : Tokenisation dialect [] ts) : ts = [] := by
  rw [← tokens_of_tokenisation h, tokens]

lemma exists_token_of_open {token : Token} {rest : List Char} (h : token.Stands dialect rest)
    (hopen : token.isClosed = false) (hmore : ∀ c ∈ more, endsNothing c = true) :
    rest = [] ∧ token.parameter? = none ∧ ∃ longer : Token, longer.Stands dialect [] ∧
      longer.source = token.source ++ more ∧ longer.parameter? = none := by
  have hne (d : Char) (hd : d ∈ ['\'', '"', '\x60', ']', '\n', '/']) : d ∉ more :=
    fun hmem => ne_of_endsNothing (hmore d hmem) hd rfl
  cases token with
  | quoted opening closing body closed =>
    obtain rfl : closed = false := hopen
    obtain ⟨hd, hb, hr⟩ := h
    have hbody := quotedBody_append_of_ends hb fun c hc => ne_of_delimiters hd (hmore c hc)
    refine ⟨hr, rfl, .quoted opening closing (body ++ more) false, ⟨hd, hbody, rfl⟩, ?_, rfl⟩
    simp [Token.source]
  | lineComment body closed =>
    obtain rfl : closed = false := hopen
    have hbody : '\n' ∉ body ++ more := by
      rw [List.mem_append, not_or]
      exact ⟨h.1, hne '\n' (by simp)⟩
    refine ⟨h.2 rfl, rfl, .lineComment (body ++ more) false, ⟨hbody, fun _ => rfl⟩, ?_, rfl⟩
    simp [Token.source]
  | blockComment body closed =>
    obtain rfl : closed = false := hopen
    have hbody := not_star_slash_append h.1 (hne '/' (by simp))
    refine ⟨h.2 rfl, rfl, .blockComment (body ++ more) false, ⟨hbody, fun _ => rfl⟩, ?_, rfl⟩
    simp [Token.source]
  | system name | parameter name | other c => cases hopen

lemma exists_tokenisation_of_open {cs : List Char} {ts : List Token}
    (h : Tokenisation dialect cs ts) (hopen : ∃ token ∈ ts, token.isClosed = false)
    (hmore : ∀ c ∈ more, endsNothing c = true) :
    ∃ front last longer, ts = front ++ [last] ∧
      Tokenisation dialect (cs ++ more) (front ++ [longer]) ∧ last.parameter? = none ∧
        longer.parameter? = none ∧ longer.source = last.source ++ more := by
  induction h with
  | nil => exact absurd hopen nofun
  | @cons token rest ts ht hts ih =>
    cases hclosed : token.isClosed with
    | true =>
      have hlater : ∃ token ∈ ts, token.isClosed = false := by
        obtain ⟨other, hother, hother'⟩ := hopen
        rcases List.mem_cons.mp hother with rfl | hmem
        · exact Bool.noConfusion (hother'.symm.trans hclosed)
        · exact ⟨other, hmem, hother'⟩
      obtain ⟨front, last, longer, rfl, hwhole, hlast, hlonger, hsource⟩ := ih hlater
      cases rest with
      | nil => exact absurd (eq_nil_of_tokenisation hts) (by simp)
      | cons c rest =>
        refine ⟨token :: front, last, longer, rfl, ?_, hlast, hlonger, hsource⟩
        rw [List.append_assoc]
        exact .cons (stands_cons_append ht hclosed more) hwhole
    | false =>
      obtain ⟨rfl, hlast, longer, hstands, hsource, hlonger⟩ :=
        exists_token_of_open ht hclosed hmore
      obtain rfl := eq_nil_of_tokenisation hts
      refine ⟨[], token, longer, rfl, ?_, hlast, hlonger, hsource⟩
      rw [List.append_nil, ← hsource, ← List.append_nil longer.source]
      exact .cons hstands .nil

lemma exists_tokens_of_open {cs : List Char} (hopen : ¬ Closed dialect cs)
    (hmore : ∀ c ∈ more, endsNothing c = true) :
    ∃ front last longer, tokens dialect cs = front ++ [last] ∧
      tokens dialect (cs ++ more) = front ++ [longer] ∧ last.parameter? = none ∧
        longer.parameter? = none ∧ longer.source = last.source ++ more := by
  have hsome : ∃ token ∈ tokens dialect cs, token.isClosed = false := by
    simpa [Closed] using hopen
  obtain ⟨front, last, longer, hts, hwhole, hlast⟩ :=
    exists_tokenisation_of_open (tokenisation_tokens dialect cs) hsome hmore
  exact ⟨front, last, longer, hts, tokens_of_tokenisation hwhole, hlast⟩

lemma names_append_of_open {cs : List Char} (hopen : ¬ Closed dialect cs)
    (hmore : ∀ c ∈ more, endsNothing c = true) :
    names (tokens dialect (cs ++ more)) = names (tokens dialect cs) := by
  obtain ⟨front, last, longer, hts, hwhole, hlast, hlonger, -⟩ := exists_tokens_of_open hopen hmore
  rw [hts, hwhole, names_concat, names_concat, hlast, hlonger]

lemma rewritten_append_of_open {cs : List Char} (hopen : ¬ Closed dialect cs)
    (hmore : ∀ c ∈ more, endsNothing c = true) (bound : List String) :
    (tokens dialect (cs ++ more)).flatMap (rewritten dialect bound) =
      (tokens dialect cs).flatMap (rewritten dialect bound) ++ more := by
  obtain ⟨front, last, longer, hts, hwhole, hlast, hlonger, hsource⟩ :=
    exists_tokens_of_open hopen hmore
  rw [hts, hwhole, List.flatMap_append, List.flatMap_append, List.append_assoc]
  simp only [List.flatMap_singleton, rewritten, hlast, hlonger, hsource]

end Open

structure Tail (text : String) : Prop where
  seam : Seam text.toList
  plain : Plain text
  ends : ∀ c ∈ text.toList, endsNothing c = true

section Frame

variable {front tail : String}

/-- Behind any text, also one that leaves a literal or comment open. -/
lemma rewritten_append_tail (h : Tail tail) (text : String) :
    names (tokens dialect (text ++ tail).toList) = names (tokens dialect text.toList) ∧
      ∀ bound, (tokens dialect (text ++ tail).toList).flatMap (rewritten dialect bound) =
        (tokens dialect text.toList).flatMap (rewritten dialect bound) ++ tail.toList := by
  rw [String.toList_append]
  by_cases hclosed : Closed dialect text.toList
  · have hothers := names_other tail.toList
    rw [tokens_append hclosed h.seam, tokens_of_plain (List.all_eq_true.mp h.plain)]
    refine ⟨by rw [names_append, hothers, List.append_nil], fun bound => ?_⟩
    rw [List.flatMap_append, flatMap_rewritten_of_names hothers, flatMap_source_other]
  · exact ⟨names_append_of_open hclosed h.ends, rewritten_append_of_open hclosed h.ends⟩

lemma bind_append_tail (h : Tail tail) (text : String) (parameters : Parameters) :
    bind (text ++ tail) parameters dialect =
      (bind text parameters dialect).map fun bound => ⟨bound.sql ++ tail, bound.values⟩ := by
  have htail : names (tokens dialect (text ++ tail).toList) = _ ∧ _ := rewritten_append_tail h text
  have hsql : rewriting dialect (tokens dialect (text ++ tail).toList) =
      rewriting dialect (tokens dialect text.toList) ++ tail := by
    rw [rewriting, rewriting, htail.1, htail.2, String.ofList_append, String.ofList_toList]
  exact bind_map_of_names (f := (· ++ tail)) htail.1 hsql parameters

lemma bind_plain_append (h : Plain front) (rest : String) (parameters : Parameters) :
    bind (front ++ rest) parameters dialect =
      (bind rest parameters dialect).map fun bound => ⟨front ++ bound.sql, bound.values⟩ := by
  refine bind_append ?_ (names_other front.toList) (flatMap_source_other _) parameters
  rw [String.toList_append]
  exact tokens_plain_append (List.all_eq_true.mp h) rest.toList

lemma bind_framed (hfront : Plain front) (htail : Tail tail) (text : String)
    (parameters : Parameters) :
    bind (front ++ text ++ tail) parameters dialect =
      (bind text parameters dialect).map fun bound =>
        ⟨front ++ bound.sql ++ tail, bound.values⟩ := by
  rw [bind_append_tail htail, bind_plain_append hfront]
  cases bind text parameters dialect <;> rfl

lemma tail_parenthesis : Tail ")" := ⟨seam_cons rfl [], rfl, List.all_eq_true.mp rfl⟩

lemma tail_otherwise : Tail ") THEN 1 ELSE 0 END" :=
  ⟨seam_cons rfl _, rfl, List.all_eq_true.mp rfl⟩

lemma bind_existence (inner : String) (parameters : Parameters) :
    bind (dialect.existence inner) parameters dialect =
      (bind inner parameters dialect).map fun bound =>
        ⟨dialect.existence bound.sql, bound.values⟩ := by
  have hcase : Plain "SELECT CASE WHEN EXISTS (" := rfl
  have hexists : Plain "SELECT EXISTS (" := rfl
  cases dialect with
  | sqlServer | postgreSql => exact bind_framed hcase tail_otherwise inner parameters
  | mySql | sqlite => exact bind_framed hexists tail_parenthesis inner parameters

end Frame

end SelectQuery.Binding
