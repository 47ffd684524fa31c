import Mathlib.Data.List.Basic
import SelectQuery.Proofs.Binding.Rewriting
import SelectQuery.Proofs.Dialect.Quoting

namespace SelectQuery

namespace Binding

variable {dialect : Dialect}

lemma quotedBody_encode (closing : Char) (cs : List Char) :
    QuotedBody closing (Quoted.encode closing cs) := by
  induction cs with
  | nil => exact .nil
  | cons c cs ih =>
    rw [Quoted.encode]
    split
    · next hc =>
      subst hc
      exact .pair ih
    · next hc => exact .char hc ih

lemma delimiters_quotes (dialect : Dialect) :
    Delimiters dialect dialect.quotes.1 dialect.quotes.2 := by
  cases dialect with
  | sqlServer => exact .bracket rfl
  | postgreSql => exact .quotationMark
  | mySql => exact .graveAccent
  | sqlite => exact .quotationMark

lemma tokens_source_append {token : Token} {rest : List Char} (h : token.Stands dialect rest) :
    tokens dialect (token.source ++ rest) = token :: tokens dialect rest := by
  apply tokens_of_tokenisation
  exact .cons h (tokenisation_tokens dialect rest)

lemma flatMap_rewritten_of_names {ts : List Token} (h : names ts = []) (bound : List String) :
    ts.flatMap (rewritten dialect bound) = ts.flatMap Token.source := by
  refine List.flatMap_congr fun token htoken => ?_
  rw [rewritten, List.filterMap_eq_nil_iff.mp h token htoken]

lemma flatMap_source_tokens (dialect : Dialect) (cs : List Char) :
    (tokens dialect cs).flatMap Token.source = cs := by
  have h := tokenisation_tokens dialect cs
  generalize tokens dialect cs = ts at h
  induction h with
  | nil => rfl
  | cons _ _ ih => rw [List.flatMap_cons, ih]

lemma bind_of_nameless {sql : String} (h : names (tokens dialect sql.toList) = [])
    (parameters : Parameters) : bind sql parameters dialect = .ok ⟨sql, []⟩ := by
  have hfind : (names (tokens dialect sql.toList)).find? (lacks parameters) = none := by
    rw [h]
    rfl
  obtain ⟨values, hbind, hvalues⟩ := bind_ok hfind
  have hnone : values = [] := by
    rw [h, boundNames] at hvalues
    simpa using hvalues
  rw [hbind, hnone, rewriting, flatMap_rewritten_of_names h, flatMap_source_tokens,
    String.ofList_toList]

lemma bind_map_of_names {sql other : String} {f : String → String}
    (hnames : names (tokens dialect other.toList) = names (tokens dialect sql.toList))
    (hsql : rewriting dialect (tokens dialect other.toList) =
      f (rewriting dialect (tokens dialect sql.toList))) (parameters : Parameters) :
    bind other parameters dialect =
      (bind sql parameters dialect).map fun bound => ⟨f bound.sql, bound.values⟩ := by
  cases hfind : (names (tokens dialect sql.toList)).find? (lacks parameters) with
  | some name =>
    rw [bind_missing hfind, bind_missing (hnames ▸ hfind)]
    rfl
  | none =>
    obtain ⟨values, hbind, hvalues⟩ := bind_ok hfind
    obtain ⟨others, hother, hothers⟩ := bind_ok (hnames ▸ hfind)
    have hsame : others = values := by
      rw [hnames, ← hvalues] at hothers
      exact eq_of_map_some hothers
    rw [hbind, hother, hsql, hsame]
    rfl

lemma bind_append {front : List Token} {text rest : String}
    (h : tokens dialect (text ++ rest).toList = front ++ tokens dialect rest.toList)
    (hn : names front = []) (htext : front.flatMap Token.source = text.toList)
    (parameters : Parameters) :
    bind (text ++ rest) parameters dialect =
      (bind rest parameters dialect).map fun bound => ⟨text ++ bound.sql, bound.values⟩ := by
  have hnames : names (tokens dialect (text ++ rest).toList) =
      names (tokens dialect rest.toList) := by
    rw [h, names_append, hn, List.nil_append]
  have hsql : rewriting dialect (tokens dialect (text ++ rest).toList) =
      text ++ rewriting dialect (tokens dialect rest.toList) := by
    rw [rewriting, rewriting, hnames, h, List.flatMap_append, flatMap_rewritten_of_names hn,
      htext, String.ofList_append, String.ofList_toList]
  exact bind_map_of_names hnames hsql parameters

lemma bind_source_append {token : Token} {rest : String} (hs : token.Stands dialect rest.toList)
    (ht : token.parameter? = none) (parameters : Parameters) :
    bind (String.ofList token.source ++ rest) parameters dialect =
      (bind rest parameters dialect).map fun bound =>
        ⟨String.ofList token.source ++ bound.sql, bound.values⟩ := by
  have hnames : names [token] = [] := List.filterMap_cons_none ht
  refine bind_append ?_ hnames ?_ parameters
  · rw [String.toList_append, String.toList_ofList, tokens_source_append hs]
    rfl
  · rw [List.flatMap_singleton, String.toList_ofList]

def quotedName (dialect : Dialect) (name : String) : Token :=
  .quoted dialect.quotes.1 dialect.quotes.2 (Quoted.encode dialect.quotes.2 name.toList) true

lemma quotedName_stands (name : String) {rest : List Char}
    (h : rest.head? ≠ some dialect.quotes.2) : (quotedName dialect name).Stands dialect rest :=
  ⟨delimiters_quotes dialect, quotedBody_encode _ _, h⟩

theorem bind_quote_append (dialect : Dialect) {name : String} (hname : Text.isBlank name = false)
    {rest : String} (hrest : rest.toList.head? ≠ some dialect.quotes.2) (parameters : Parameters) :
    ∃ quoted, dialect.quote name = .ok quoted ∧
      bind (quoted ++ rest) parameters dialect =
        (bind rest parameters dialect).map fun bound => ⟨quoted ++ bound.sql, bound.values⟩ := by
  refine ⟨String.ofList (quotedName dialect name).source, ?_, ?_⟩
  · exact Quoted.quote_eq_ok hname _ _
  · exact bind_source_append (quotedName_stands name hrest) rfl parameters

theorem bind_quote_append_weirdName :
    ∃ quoted, Dialect.sqlServer.quote "]]@a'/*--\n]" = .ok quoted ∧
      bind (quoted ++ " = @a") (NameMap.empty.insert "a" (.int 1)) .sqlServer =
        (bind " = @a" (NameMap.empty.insert "a" (.int 1)) .sqlServer).map fun bound =>
          ⟨quoted ++ bound.sql, bound.values⟩ :=
  bind_quote_append .sqlServer (by decide +kernel) (by decide +kernel) _

end Binding

end SelectQuery
