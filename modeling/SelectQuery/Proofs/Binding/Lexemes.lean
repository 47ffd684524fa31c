import SelectQuery.Proofs.Binding.Copying

/-! String literals and comments as the dialects read them. Binding has one rule for all dialects:
a quote inside is written twice, and a comment ends at the first `*/`. -/

namespace SelectQuery.Binding

/-- What stands between the quotes of a literal. In MySQL a backslash escapes what follows. -/
inductive LiteralBody (dialect : Dialect) (quote : Char) : List Char → Prop
  | nil : LiteralBody dialect quote []
  | char {c body} : c ≠ quote → (dialect = .mySql → c ≠ '\\') → LiteralBody dialect quote body →
      LiteralBody dialect quote (c :: body)
  | pair {body} : LiteralBody dialect quote body →
      LiteralBody dialect quote (quote :: quote :: body)
  | escape {c body} : dialect = .mySql → LiteralBody dialect quote body →
      LiteralBody dialect quote ('\\' :: c :: body)

/-- A block comment without its opening. In PostgreSQL comments nest. -/
inductive CommentTail (dialect : Dialect) : List Char → Prop
  | close : CommentTail dialect ['*', '/']
  | char {c tail} : ¬ ['*', '/'] <+: c :: tail →
      (dialect = .postgreSql → ¬ ['/', '*'] <+: c :: tail) → CommentTail dialect tail →
      CommentTail dialect (c :: tail)
  | nested {inner tail} : dialect = .postgreSql → CommentTail dialect inner →
      CommentTail dialect tail → CommentTail dialect ('/' :: '*' :: inner ++ tail)

inductive Lexeme
  | literal (quote : Char) (body : List Char)
  | dashComment (body : List Char)
  | hashComment (body : List Char)
  | blockComment (tail : List Char)

namespace Lexeme

def text : Lexeme → String
  | literal quote body => String.ofList (quote :: body ++ [quote])
  | dashComment body => String.ofList ('-' :: '-' :: body)
  | hashComment body => String.ofList ('#' :: body)
  | blockComment tail => String.ofList ('/' :: '*' :: tail)

def stop : Lexeme → Char
  | literal .. | blockComment _ => ' '
  | dashComment _ | hashComment _ => '\n'

def Complete (dialect : Dialect) : Lexeme → Prop
  | literal quote body =>
    (quote = '\'' ∨ dialect = .mySql ∧ quote = '"') ∧ LiteralBody dialect quote body
  | dashComment body => '\n' ∉ body
  | hashComment body => dialect = .mySql ∧ '\n' ∉ body
  | blockComment tail => CommentTail dialect tail

def Ordinary : Lexeme → Prop
  | literal quote body => QuotedBody quote body
  | dashComment _ => True
  | hashComment body => ∀ c ∈ body, isPlain c = true
  | blockComment tail => ∃ body, tail = body ++ ['*', '/'] ∧ ¬ ['*', '/'] <:+: body

def HasOwnRule (dialect : Dialect) : Lexeme → Prop
  | literal .. | hashComment _ => dialect = .mySql
  | dashComment _ => False
  | blockComment _ => dialect = .postgreSql

end Lexeme

variable {dialect : Dialect}

lemma quotedBody_of_literalBody {quote : Char} {body : List Char} (hd : dialect ≠ .mySql)
    (h : LiteralBody dialect quote body) : QuotedBody quote body := by
  induction h with
  | nil => exact .nil
  | char hc _ _ ih => exact .char hc ih
  | pair _ ih => exact .pair ih
  | escape hm _ _ => exact absurd hm hd

lemma flat_of_commentTail {tail : List Char} (hd : dialect ≠ .postgreSql)
    (h : CommentTail dialect tail) :
    ∃ body, tail = body ++ ['*', '/'] ∧ ¬ ['*', '/'] <:+: body := by
  induction h with
  | close => exact ⟨[], rfl, by decide⟩
  | @char c tail hc _ _ ih =>
    obtain ⟨body, rfl, hbody⟩ := ih
    refine ⟨c :: body, rfl, ?_⟩
    rw [Token.star_slash_infix_cons, not_or]
    refine ⟨?_, hbody⟩
    rintro ⟨rfl, hslash⟩
    obtain ⟨rest, rfl⟩ := List.head?_eq_some_iff.mp hslash
    exact hc (List.prefix_append ['*', '/'] _)
  | nested hp _ _ _ _ => exact absurd hp hd

lemma Lexeme.Complete.ordinary {lexeme : Lexeme} (h : lexeme.Complete dialect)
    (hrule : ¬ lexeme.HasOwnRule dialect) : lexeme.Ordinary := by
  cases lexeme with
  | literal quote body => exact quotedBody_of_literalBody hrule h.2
  | dashComment body => exact trivial
  | hashComment body => exact absurd h.1 hrule
  | blockComment tail => exact flat_of_commentTail hrule h

section Inert

variable {text : String} {stop : Char}

lemma inert_of_plain (h : ∀ c ∈ text.toList ++ [stop], isPlain c = true) :
    Inert dialect text stop := by
  constructor
  · rw [Closed, tokens_of_plain h]
    exact List.forall_mem_map.mpr fun _ _ => rfl
  · rw [tokens_of_plain h, names, List.filterMap_map]
    exact List.filterMap_eq_nil_iff.mpr fun _ _ => rfl

lemma inert_of_token {token : Token} {rest : List Char}
    (htext : text.toList ++ [stop] = token.source ++ rest) (h : token.Stands dialect rest)
    (hclosed : token.isClosed = true) (hn : token.parameter? = none)
    (hrest : ∀ c ∈ rest, isPlain c = true) : Inert dialect text stop := by
  have htokens : tokens dialect (text.toList ++ [stop]) = token :: rest.map .other := by
    rw [htext, tokens_source_append h, tokens_of_plain hrest]
  constructor
  · rw [Closed, htokens, List.forall_mem_cons]
    exact ⟨hclosed, List.forall_mem_map.mpr fun _ _ => rfl⟩
  · rw [htokens, names, List.filterMap_cons_none hn, List.filterMap_map]
    exact List.filterMap_eq_nil_iff.mpr fun _ _ => rfl

end Inert

lemma Lexeme.Ordinary.inert {lexeme : Lexeme} (ho : lexeme.Ordinary)
    (h : lexeme.Complete dialect) : Inert dialect lexeme.text lexeme.stop := by
  have hspace : ∀ c ∈ [' '], isPlain c = true :=
    List.forall_mem_singleton.mpr (isPlain_of_isSpace rfl)
  cases lexeme with
  | literal quote body =>
    have hd : Delimiters dialect quote quote := by
      obtain ⟨rfl | ⟨-, rfl⟩, -⟩ := h
      · exact .apostrophe
      · exact .quotationMark
    have hquote : [' '].head? ≠ some quote := by
      rintro ⟨⟩
      cases hd
    have hstands : (Token.quoted quote quote body true).Stands dialect [' '] := ⟨hd, ho, hquote⟩
    refine inert_of_token ?_ hstands rfl rfl hspace
    rw [text, String.toList_ofList]
    rfl
  | dashComment body =>
    have hstands : (Token.lineComment body true).Stands dialect [] := ⟨h, nofun⟩
    refine inert_of_token ?_ hstands rfl rfl nofun
    rw [text, String.toList_ofList, List.append_nil]
    rfl
  | hashComment body =>
    apply inert_of_plain
    rw [text, String.toList_ofList, List.cons_append, List.forall_mem_cons, List.forall_mem_append]
    exact ⟨by decide, ho, List.forall_mem_singleton.mpr (isPlain_of_isSpace rfl)⟩
  | blockComment tail =>
    obtain ⟨body, rfl, hbody⟩ := ho
    have hstands : (Token.blockComment body true).Stands dialect [' '] := ⟨hbody, nofun⟩
    refine inert_of_token ?_ hstands rfl rfl hspace
    rw [text, String.toList_ofList]
    rfl

/-- Copying is decided by the tokens of the text. It fails only where a dialect has a rule of its
own: at escapes, at `#` and at nested comments. -/
theorem copied_lexemes (dialect : Dialect) :
    (∀ text stop, Text.isSpace stop = true → (Copied dialect text stop ↔ Inert dialect text stop)) ∧
    ∀ lexeme : Lexeme, lexeme.Complete dialect → lexeme.Ordinary ∨ ¬ lexeme.HasOwnRule dialect →
      Copied dialect lexeme.text lexeme.stop := by
  refine ⟨fun text stop hstop => ⟨fun h => h.inert hstop, fun h => h.copied hstop⟩, ?_⟩
  intro lexeme h hlike
  have ho : lexeme.Ordinary := hlike.elim id h.ordinary
  have hstop : Text.isSpace lexeme.stop = true := by cases lexeme <;> rfl
  exact (ho.inert h).copied hstop

def oneValue : Parameters := NameMap.empty.insert "a" (.int 1)

structure Misread (dialect : Dialect) (lexeme : Lexeme) : Prop where
  complete : lexeme.Complete dialect
  missing : bind (lexeme.text ++ String.ofList [lexeme.stop, '@', 'a']) oneValue dialect =
    .error (.missingParameter "x")
  found : ∃ bound, bind (String.ofList [lexeme.stop, '@', 'a']) oneValue dialect = .ok bound

theorem misread_ownRule :
    Misread .mySql (.literal '\'' ['\\', '\'', ' ', '@', 'x']) ∧
      Misread .mySql (.hashComment ['@', 'x']) ∧
      Misread .postgreSql (.blockComment ['/', '*', '*', '/', '@', 'x', '*', '/']) := by
  have hescaped : LiteralBody .mySql '\'' ['\\', '\'', ' ', '@', 'x'] :=
    .escape rfl (.char (by decide) (by decide) (.char (by decide) (by decide)
      (.char (by decide) (by decide) .nil)))
  have htail : CommentTail .postgreSql ['@', 'x', '*', '/'] :=
    .char (by decide) (by decide) (.char (by decide) (by decide) .close)
  have hnested : CommentTail .postgreSql ['/', '*', '*', '/', '@', 'x', '*', '/'] :=
    .nested rfl .close htail
  have hbound {dialect : Dialect} {rest : String}
      (h : (names (tokens dialect rest.toList)).find? (lacks oneValue) = none) :
      ∃ bound, bind rest oneValue dialect = .ok bound := by
    obtain ⟨values, hvalues, -⟩ := bind_ok h
    exact ⟨_, hvalues⟩
  refine ⟨⟨⟨.inl rfl, hescaped⟩, bind_missing (by decide +kernel), ?_⟩,
    ⟨⟨rfl, by decide⟩, bind_missing (by decide +kernel), ?_⟩,
    ⟨hnested, bind_missing (by decide +kernel), ?_⟩⟩
  · exact hbound (by decide +kernel)
  · exact hbound (by decide +kernel)
  · exact hbound (by decide +kernel)

def doubled : Lexeme := .literal '\'' ['@', 'a', '\'', '\'', '@', 'a']

theorem copied_lexemes_doubled :
    doubled.Complete .mySql ∧ doubled.Ordinary ∧
      bind ("'@a''@a'" ++ " = @a") oneValue .mySql =
        (bind " = @a" oneValue .mySql).map fun bound =>
          ⟨"'@a''@a'" ++ bound.sql, bound.values⟩ := by
  have hbody : LiteralBody .mySql '\'' ['@', 'a', '\'', '\'', '@', 'a'] :=
    .char (by decide) (by decide) (.char (by decide) (by decide)
      (.pair (.char (by decide) (by decide) (.char (by decide) (by decide) .nil))))
  have hordinary : doubled.Ordinary :=
    .char (by decide) (.char (by decide) (.pair (.char (by decide) (.char (by decide) .nil))))
  have hcomplete : doubled.Complete .mySql := ⟨.inl rfl, hbody⟩
  have htext : doubled.text = "'@a''@a'" := by decide +kernel
  have hcopied := (copied_lexemes .mySql).2 doubled hcomplete (.inl hordinary)
  rw [htext] at hcopied
  exact ⟨hcomplete, hordinary, hcopied " = @a" _ rfl⟩

end SelectQuery.Binding
