import SelectQuery.Proofs.Json.Words

namespace SelectQuery.Json

mutual

/-- The value that the text of a value has: nothing but finite numbers is written as a number. -/
def plain : Json → Json
  | .null | .void => .null
  | .bool b => .bool b
  | .int i => .int i
  | .float x => finite x
  | .string s => .string s
  | .array items => .array (plainItems items)
  | .object members => .object (plainMembers members)

def plainItems : List Json → List Json
  | [] => []
  | j :: js => plain j :: plainItems js

def plainMembers : List (String × Json) → List (String × Json)
  | [] => []
  | (name, j) :: ms => (name, plain j) :: plainMembers ms

end

mutual

def floats : Json → List Binary64
  | .float x => [x]
  | .array items => floatsOfItems items
  | .object members => floatsOfMembers members
  | _ => []

def floatsOfItems : List Json → List Binary64
  | [] => []
  | j :: js => floats j ++ floatsOfItems js

def floatsOfMembers : List (String × Json) → List Binary64
  | [] => []
  | (_, j) :: ms => floats j ++ floatsOfMembers ms

end

mutual

def spelled : Json → List Token
  | .null | .void => [.scalar .null]
  | .bool b => [.scalar (.bool b)]
  | .int i => [.scalar (.int i)]
  | .float x => [.scalar (finite x)]
  | .string s => [.text (some s)]
  | .array [] => [.openArray, .closeArray]
  | .array (j :: js) => .openArray :: spelled j ++ spelledItems js
  | .object [] => [.openObject, .closeObject]
  | .object ((name, j) :: ms) =>
    .openObject :: .text (some name) :: .colon :: spelled j ++ spelledMembers ms

def spelledItems : List Json → List Token
  | [] => [.closeArray]
  | j :: js => .comma :: spelled j ++ spelledItems js

def spelledMembers : List (String × Json) → List Token
  | [] => [.closeObject]
  | (name, j) :: ms => .comma :: .text (some name) :: .colon :: spelled j ++ spelledMembers ms

end

namespace Token

lemma scan?_cons {scan next : Scan} {c : Char} {ts : List Token} (h : step scan c = some (next, ts))
    (reversed : List Token) (cs : List Char) :
    scan? scan reversed (c :: cs) = scan? next (ts.reverse ++ reversed) cs := by
  rw [scan?, h]

def EndsWord (rest : List Char) : Prop := ∀ c, rest.head? = some c → inWord c = false

lemma scan?_word {word reversed : List Char} (h : ∀ c ∈ word, inWord c = true)
    (ts : List Token) (rest : List Char) :
    scan? (.word reversed) ts (word ++ rest) =
      scan? (.word (word.reverse ++ reversed)) ts rest := by
  induction word generalizing reversed with
  | nil => rfl
  | cons c word ih =>
    obtain ⟨hc, hword⟩ := List.forall_mem_cons.mp h
    have hstep : step (.word reversed) c = some (.word (c :: reversed), []) := by
      rw [step, if_pos hc]
    rw [List.cons_append, scan?_cons hstep, List.reverse_nil, List.nil_append, ih hword,
      List.reverse_cons, List.append_assoc]
    rfl

lemma scan?_word_end {reversed rest : List Char} {t : Token}
    (h : ofWord? reversed.reverse = some t) (hrest : EndsWord rest) (ts : List Token) :
    scan? (.word reversed) ts rest = scan? .between (t :: ts) rest := by
  cases rest with
  | nil =>
    have hfinish : finish? (.word reversed) = some [t] := by
      rw [finish?, h]
      rfl
    rw [scan?, scan?, hfinish]
    simp [finish?]
  | cons c rest =>
    rw [scan?, scan?, step, step, if_neg (by simp [hrest c rfl]), h]
    cases hb : between c with
    | none => rfl
    | some next => simp

lemma between_of_inWord {c : Char} (h : inWord c = true) : between c = some (.word [c], []) := by
  have hspace : isJsonSpace c = false := by
    cases hs : isJsonSpace c with
    | false => rfl
    | true =>
      simp only [isJsonSpace, Bool.or_eq_true, beq_iff_eq] at hs
      rcases hs with ((rfl | rfl) | rfl) | rfl <;> cases h
  rw [between.eq_def, hspace, if_neg Bool.false_ne_true, if_pos h]

lemma scan?_isWord {word rest : List Char} {j : Json} (h : IsWord word j) (hrest : EndsWord rest)
    (ts : List Token) :
    scan? .between ts (word ++ rest) = scan? .between (.scalar j :: ts) rest := by
  cases word with
  | nil => exact absurd rfl h.nonempty
  | cons c word =>
    obtain ⟨hc, hword⟩ := List.forall_mem_cons.mp h.inWord
    have hstep : step .between c = some (.word [c], []) := between_of_inWord hc
    have hread : ofWord? (word.reverse ++ [c]).reverse = some (.scalar j) := by
      rw [List.reverse_append, List.reverse_reverse]
      exact h.read
    rw [List.cons_append, scan?_cons hstep, List.reverse_nil, List.nil_append, scan?_word hword,
      scan?_word_end hread hrest]

lemma hexDigit?_digitChar : ∀ n < 16, Text.hexDigit? (Nat.digitChar n) = some n := by decide

section Strings

variable (reversed : List Char) (ts : List Token) (rest : List Char)

lemma scan?_plain {c : Char} (hquote : c ≠ '"') (hback : c ≠ '\\') (hcontrol : ¬ c.toNat < 0x20) :
    scan? (.string reversed true .character) ts (c :: rest) =
      scan? (.string (c :: reversed) true .character) ts rest := by
  have hstep : step (.string reversed true .character) c =
      some (.string (c :: reversed) true .character, []) := by
    rw [step, inString, if_neg hquote, if_neg hback, if_neg hcontrol]
  exact scan?_cons hstep ts rest

lemma scan?_unescape {c d : Char} (hd : d ≠ 'u') (h : unescape? d = some c) :
    scan? (.string reversed true .character) ts ('\\' :: d :: rest) =
      scan? (.string (c :: reversed) true .character) ts rest := by
  have hescape : step (.string reversed true .character) '\\' =
      some (.string reversed true .escape, []) := rfl
  have hstep : step (.string reversed true .escape) d =
      some (.string (c :: reversed) true .character, []) := by
    rw [step, inEscape, if_neg hd, h]
    rfl
  rw [scan?_cons hescape, scan?_cons hstep]
  rfl

lemma scan?_digit {c : Char} {digit left code : Nat} (h : Text.hexDigit? c = some digit) :
    scan? (.string reversed true (.code (left + 1) code none)) ts (c :: rest) =
      scan? (.string reversed true (.code left (16 * code + digit) none)) ts rest := by
  have hstep : step (.string reversed true (.code (left + 1) code none)) c =
      some (.string reversed true (.code left (16 * code + digit) none), []) := by
    rw [step, h]
    rfl
  exact scan?_cons hstep ts rest

lemma scan?_lastDigit {c : Char} {digit code : Nat} (h : Text.hexDigit? c = some digit)
    (hcode : 16 * code + digit < 0xD800) :
    scan? (.string reversed true (.code 0 code none)) ts (c :: rest) =
      scan? (.string (Char.ofNat (16 * code + digit) :: reversed) true .character) ts rest := by
  have hlead : isLead (16 * code + digit) = false := by
    rw [isLead, decide_eq_false (by omega), Bool.false_and]
  have htrail : isTrail (16 * code + digit) = false := by
    rw [isTrail, decide_eq_false (by omega), Bool.false_and]
  have hstep : step (.string reversed true (.code 0 code none)) c =
      some (.string (Char.ofNat (16 * code + digit) :: reversed) true .character, []) := by
    rw [step, h]
    simp [codeRead, hlead, htrail]
  exact scan?_cons hstep ts rest

lemma scan?_code {c : Char} (h : c.toNat < 0x20) :
    scan? (.string reversed true .character) ts
        ('\\' :: 'u' :: '0' :: '0' :: Nat.digitChar (c.toNat / 16) ::
          Nat.digitChar (c.toNat % 16) :: rest) =
      scan? (.string (c :: reversed) true .character) ts rest := by
  have hzero : Text.hexDigit? '0' = some 0 := rfl
  have hhigh := hexDigit?_digitChar (c.toNat / 16) (by omega)
  have hlow := hexDigit?_digitChar (c.toNat % 16) (by omega)
  have hcode : 16 * (16 * (16 * (16 * 0 + 0) + 0) + c.toNat / 16) + c.toNat % 16 = c.toNat := by
    omega
  have hopen : step (.string reversed true .character) '\\' =
      some (.string reversed true .escape, []) := rfl
  have hu : step (.string reversed true .escape) 'u' =
      some (.string reversed true (.code 3 0 none), []) := rfl
  rw [scan?_cons hopen, scan?_cons hu, scan?_digit _ _ _ hzero, scan?_digit _ _ _ hzero,
    scan?_digit _ _ _ hhigh, scan?_lastDigit _ _ _ hlow (by omega), hcode, Char.ofNat_toNat]
  rfl

lemma scan?_escape (c : Char) :
    scan? (.string reversed true .character) ts (escape c ++ rest) =
      scan? (.string (c :: reversed) true .character) ts rest := by
  fun_cases escape c
  case case8 h => exact scan?_code reversed ts rest h
  case case9 hquote hback _ _ _ _ _ h => exact scan?_plain reversed ts rest hquote hback h
  -- All others are escaped by a letter or by the character itself.
  all_goals
    rename_i h
    subst h
    exact scan?_unescape reversed ts rest (by decide) rfl

lemma scan?_content (cs : List Char) :
    scan? (.string reversed true .character) ts (cs.flatMap escape ++ '"' :: rest) =
      scan? .between (.text (some (String.ofList (reversed.reverse ++ cs))) :: ts) rest := by
  induction cs generalizing reversed with
  | nil =>
    have hstep : step (.string reversed true .character) '"' =
        some (.between, [.text (some (String.ofList reversed.reverse))]) := rfl
    rw [List.flatMap_nil, List.nil_append, scan?_cons hstep, List.append_nil]
    rfl
  | cons c cs ih =>
    rw [List.flatMap_cons, List.append_assoc, scan?_escape, ih, List.reverse_cons,
      List.append_assoc]
    rfl

lemma scan?_writeString (s : String) :
    scan? .between ts (writeString s ++ rest) = scan? .between (.text (some s) :: ts) rest := by
  have hstep : step .between '"' = some (.string [] true .character, []) := rfl
  rw [writeString, List.cons_append, List.cons_append, scan?_cons hstep, List.append_assoc,
    List.singleton_append, scan?_content, List.reverse_nil, List.nil_append, String.ofList_toList]
  rfl

end Strings

section Values

lemma endsWord_cons {c : Char} (h : inWord c = false) (cs : List Char) : EndsWord (c :: cs) := by
  intro d hd
  cases Option.some.inj hd
  exact h

lemma endsWord_writeItems (js : List Json) (rest : List Char) :
    EndsWord (writeItems js ++ rest) := by
  cases js with
  | nil => exact endsWord_cons rfl _
  | cons j js =>
    rw [writeItems]
    exact endsWord_cons rfl _

lemma endsWord_writeMembers (ms : List (String × Json)) (rest : List Char) :
    EndsWord (writeMembers ms ++ rest) := by
  cases ms with
  | nil => exact endsWord_cons rfl _
  | cons m ms =>
    obtain ⟨name, j⟩ := m
    rw [writeMembers]
    exact endsWord_cons rfl _

lemma scan?_colon (ts : List Token) (rest : List Char) :
    scan? .between ts (':' :: rest) = scan? .between (.colon :: ts) rest := rfl

-- A word ends where the text behind it does not go on with it, so that text must be known.
mutual

theorem scan?_write : ∀ (j : Json), (∀ x ∈ j.floats, x.isFinite = true → Restored x) →
    ∀ (ts : List Token) {rest : List Char}, EndsWord rest →
      scan? .between ts (write j ++ rest) = scan? .between ((spelled j).reverse ++ ts) rest
  | .null, _, ts, _, hrest => scan?_isWord isWord_null hrest ts
  | .void, _, ts, _, hrest => scan?_isWord isWord_null hrest ts
  | .bool b, _, ts, _, hrest => scan?_isWord (isWord_bool b) hrest ts
  | .int i, _, ts, _, hrest => scan?_isWord (isWord_int i) hrest ts
  | .float x, h, ts, _, hrest => scan?_isWord (isWord_float (h x List.mem_cons_self)) hrest ts
  | .string s, _, ts, rest, _ => scan?_writeString ts rest s
  | .array [], _, _, _, _ => rfl
  | .array (j :: js), h, ts, rest, _ => by
    obtain ⟨hj, hjs⟩ := List.forall_mem_append.mp h
    have hopen : step .between '[' = some (.between, [.openArray]) := rfl
    rw [write, spelled, List.cons_append, List.cons_append, scan?_cons hopen, List.append_assoc,
      scan?_write j hj _ (endsWord_writeItems js rest), scan?_writeItems js hjs]
    simp
  | .object [], _, _, _, _ => rfl
  | .object ((name, j) :: ms), h, ts, rest, _ => by
    obtain ⟨hj, hms⟩ := List.forall_mem_append.mp h
    have hopen : step .between '\x7b' = some (.between, [.openObject]) := rfl
    rw [write, spelled]
    simp only [List.cons_append, List.append_assoc]
    rw [scan?_cons hopen, scan?_writeString, scan?_colon,
      scan?_write j hj _ (endsWord_writeMembers ms rest), scan?_writeMembers ms hms]
    simp

theorem scan?_writeItems : ∀ (js : List Json),
    (∀ x ∈ floatsOfItems js, x.isFinite = true → Restored x) →
    ∀ (ts : List Token) (rest : List Char), scan? .between ts (writeItems js ++ rest) =
      scan? .between ((spelledItems js).reverse ++ ts) rest
  | [], _, _, _ => rfl
  | j :: js, h, ts, rest => by
    obtain ⟨hj, hjs⟩ := List.forall_mem_append.mp h
    have hcomma : step .between ',' = some (.between, [.comma]) := rfl
    rw [writeItems, spelledItems, List.cons_append, List.cons_append, scan?_cons hcomma,
      List.append_assoc, scan?_write j hj _ (endsWord_writeItems js rest),
      scan?_writeItems js hjs]
    simp

theorem scan?_writeMembers : ∀ (ms : List (String × Json)),
    (∀ x ∈ floatsOfMembers ms, x.isFinite = true → Restored x) →
    ∀ (ts : List Token) (rest : List Char), scan? .between ts (writeMembers ms ++ rest) =
      scan? .between ((spelledMembers ms).reverse ++ ts) rest
  | [], _, _, _ => rfl
  | (name, j) :: ms, h, ts, rest => by
    obtain ⟨hj, hms⟩ := List.forall_mem_append.mp h
    have hcomma : step .between ',' = some (.between, [.comma]) := rfl
    rw [writeMembers, spelledMembers]
    simp only [List.cons_append, List.append_assoc]
    rw [scan?_cons hcomma, scan?_writeString, scan?_colon,
      scan?_write j hj _ (endsWord_writeMembers ms rest), scan?_writeMembers ms hms]
    simp

end

end Values

end Token

lemma tokens?_write {j : Json} (h : ∀ x ∈ j.floats, x.isFinite = true → Restored x) :
    tokens? (write j) = some (spelled j) := by
  have hends : Token.EndsWord [] := nofun
  have hscan := Token.scan?_write j h [] hends
  rw [List.append_nil, List.append_nil] at hscan
  rw [tokens?, hscan, Token.scan?, Token.finish?, List.reverse_reverse]
  simp

end SelectQuery.Json
