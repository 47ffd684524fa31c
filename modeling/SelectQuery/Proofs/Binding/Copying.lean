import SelectQuery.Proofs.Binding.Endings

/-! Text in front of white space is copied, whatever follows and whatever the parameters, exactly
when it opens nothing that stays open there and refers to no parameter. -/

namespace SelectQuery.Binding

def Copied (dialect : Dialect) (text : String) (stop : Char) : Prop :=
  ∀ (rest : String) (parameters : Parameters), rest.toList.head? = some stop →
    bind (text ++ rest) parameters dialect =
      (bind rest parameters dialect).map fun bound => ⟨text ++ bound.sql, bound.values⟩

structure Inert (dialect : Dialect) (text : String) (stop : Char) : Prop where
  closed : Closed dialect (text.toList ++ [stop])
  nameless : names (tokens dialect (text.toList ++ [stop])) = []

variable {dialect : Dialect}

lemma isPlain_of_isSpace {c : Char} (h : Text.isSpace c = true) : isPlain c = true := by
  rw [isPlain, decide_eq_true_eq]
  intro hc
  simp only [List.mem_cons, List.not_mem_nil, or_false] at hc
  rcases hc with rfl | rfl | rfl | rfl | rfl | rfl | rfl <;> exact Bool.noConfusion h

section Spaces

lemma not_space_of_identifier {name : List Char} (h : ∀ c ∈ name, Text.inIdentifier c = true) :
    ¬ ∀ c ∈ ('@' :: name).getLast?, Text.isSpace c = true := by
  intro hlast
  obtain ⟨c, hc⟩ := Option.isSome_iff_exists.mp
    (List.getLast?_isSome.mpr (List.cons_ne_nil '@' name))
  have hspace : Text.isSpace c = true := hlast c hc
  rcases List.mem_cons.mp (List.mem_of_getLast? hc) with rfl | hname
  · exact Bool.noConfusion hspace
  · exact Bool.noConfusion ((h c hname).symm.trans (Text.not_inIdentifier_of_isSpace hspace))

lemma stands_of_getLast? {token : Token} {more : List Char} (h : token.Stands dialect [])
    (hclosed : token.isClosed = true)
    (hlast : ∀ c ∈ token.source.getLast?, Text.isSpace c = true) : token.Stands dialect more := by
  cases token with
  | quoted opening closing body closed =>
    obtain rfl : closed = true := hclosed
    have hend : (opening :: body ++ [closing]).getLast? = some closing := List.getLast?_concat
    have hspace : Text.isSpace closing = true := hlast closing hend
    have hseam : isSeam closing = true := by simp [isSeam, hspace]
    exact Bool.noConfusion (hseam.symm.trans (not_isSeam_of_delimiters h.1))
  | lineComment body closed | blockComment body closed =>
    obtain rfl : closed = true := hclosed
    exact ⟨h.1, Bool.noConfusion⟩
  | system name =>
    rw [Token.source, List.getLast?_cons_cons] at hlast
    exact absurd hlast (not_space_of_identifier h.1)
  | parameter name =>
    exact absurd hlast (not_space_of_identifier (Text.inIdentifier_of_isIdentifier h.1))
  | other c => exact single_of_isPlain (isPlain_of_isSpace (hlast c rfl)) more

lemma tokens_append_of_space {cs more : List Char} (hclosed : Closed dialect cs)
    (hlast : ∀ c ∈ cs.getLast?, Text.isSpace c = true) :
    tokens dialect (cs ++ more) = tokens dialect cs ++ tokens dialect more := by
  apply tokens_of_tokenisation
  have h := tokenisation_tokens dialect cs
  unfold Closed at hclosed
  generalize tokens dialect cs = ts at h hclosed
  induction h with
  | nil => exact tokenisation_tokens dialect more
  | @cons token rest ts ht _ ih =>
    obtain ⟨htoken, hrest⟩ := List.forall_mem_cons.mp hclosed
    rw [List.append_assoc]
    cases rest with
    | nil =>
      rw [List.append_nil] at hlast
      exact .cons (stands_of_getLast? ht htoken hlast) (ih nofun hrest)
    | cons c rest =>
      have hlater : ∀ d ∈ (c :: rest).getLast?, Text.isSpace d = true := by
        intro d hd
        apply hlast d
        rw [List.getLast?_append, Option.mem_def.mp hd]
        rfl
      exact .cons (stands_cons_append ht htoken more) (ih hlater hrest)

lemma bind_space_append {c : Char} (hc : Text.isSpace c = true) (rest : String)
    (parameters : Parameters) :
    bind (String.ofList [c] ++ rest) parameters dialect =
      (bind rest parameters dialect).map fun bound =>
        ⟨String.ofList [c] ++ bound.sql, bound.values⟩ := by
  have hplain : ∀ d ∈ [c], isPlain d = true :=
    List.forall_mem_singleton.mpr (isPlain_of_isSpace hc)
  refine bind_append ?_ (rfl : names [.other c] = []) ?_ parameters
  · rw [String.toList_append, String.toList_ofList, tokens_plain_append hplain]
    rfl
  · rw [String.toList_ofList]
    rfl

lemma Inert.copied {text : String} {stop : Char} (h : Inert dialect text stop)
    (hstop : Text.isSpace stop = true) : Copied dialect text stop := by
  intro rest parameters hrest
  obtain ⟨after, hafter⟩ := List.head?_eq_some_iff.mp hrest
  obtain rfl : rest = String.ofList [stop] ++ String.ofList after := by
    rw [← String.ofList_append, List.singleton_append, ← hafter, String.ofList_toList]
  have hlist : (text ++ String.ofList [stop]).toList = text.toList ++ [stop] := by
    rw [String.toList_append, String.toList_ofList]
  have hlast : ∀ c ∈ (text.toList ++ [stop]).getLast?, Text.isSpace c = true := by
    simpa using hstop
  have hfront : bind (text ++ String.ofList [stop] ++ String.ofList after) parameters dialect =
      (bind (String.ofList after) parameters dialect).map fun bound =>
        ⟨text ++ String.ofList [stop] ++ bound.sql, bound.values⟩ := by
    refine bind_append ?_ h.nameless ?_ parameters
    · rw [String.toList_append, hlist, tokens_append_of_space h.closed hlast]
    · rw [flatMap_source_tokens, hlist]
  rw [← String.append_assoc, hfront, bind_space_append hstop]
  cases bind (String.ofList after) parameters dialect with
  | error e => rfl
  | ok bound => simp only [Except.map, String.append_assoc]

end Spaces

section Open

/-- A reference behind an open literal or comment is part of it. -/
def reference : List Char := ['@', 'x']

lemma names_reference (dialect : Dialect) : names (tokens dialect reference) = ["x"] := by
  cases dialect <;> decide +kernel

lemma names_of_bind_empty {sql : String} {bound : BoundQuery}
    (h : bind sql .empty dialect = .ok bound) : names (tokens dialect sql.toList) = [] := by
  cases hnames : names (tokens dialect sql.toList) with
  | nil => rfl
  | cons name others =>
    have hfind : (names (tokens dialect sql.toList)).find? (lacks .empty) = some name := by
      rw [hnames, List.find?_cons_of_pos]
      rfl
    cases (bind_missing hfind).symm.trans h

lemma Copied.inert {text : String} {stop : Char} (h : Copied dialect text stop)
    (hstop : Text.isSpace stop = true) : Inert dialect text stop := by
  have hplain : ∀ c ∈ [stop], isPlain c = true :=
    List.forall_mem_singleton.mpr (isPlain_of_isSpace hstop)
  have hspace (after : List Char) : names (tokens dialect (stop :: after)) =
      names (tokens dialect after) := by
    rw [← List.singleton_append, tokens_plain_append hplain]
    rfl
  have hnames : names (tokens dialect (text.toList ++ [stop])) = [] := by
    have halone : names (tokens dialect (String.ofList [stop]).toList) = [] := by
      rw [String.toList_ofList, hspace, tokens]
      rfl
    have hcopy := h (String.ofList [stop]) .empty (by rw [String.toList_ofList]; rfl)
    rw [bind_of_nameless halone] at hcopy
    have hnone := names_of_bind_empty hcopy
    rwa [String.toList_append, String.toList_ofList] at hnone
  refine ⟨?_, hnames⟩
  by_contra hopen
  let rest : String := String.ofList (stop :: reference)
  have hwhole : names (tokens dialect (text ++ rest).toList) = [] := by
    rw [String.toList_append, String.toList_ofList, ← List.singleton_append, ← List.append_assoc,
      names_append_of_open hopen (List.all_eq_true.mp rfl), hnames]
  have hcopy := h rest .empty (by rw [String.toList_ofList]; rfl)
  have hmissing : bind rest .empty dialect = .error (.missingParameter "x") := by
    apply bind_missing
    rw [String.toList_ofList, hspace, names_reference]
    rfl
  rw [bind_of_nameless hwhole, hmissing] at hcopy
  cases hcopy

end Open

end SelectQuery.Binding
