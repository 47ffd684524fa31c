import Mathlib.Data.List.Nodup
import SelectQuery.Proofs.Binding.Rewriting

/-! Numbered placeholders that occurrences share stand for the values that a placeholder for every
occurrence stands for. -/

namespace SelectQuery.Binding

def fill (text : Nat → List Char) : List Token → List Nat → List Char
  | [], _ => []
  | token :: ts, numbers =>
    match token.parameter? with
    | none => token.source ++ fill text ts numbers
    | some _ => text (numbers.headD 0) ++ fill text ts numbers.tail

/-- Numbers of occurrences. The occurrences of a name share theirs, and names are counted from one
as they occur. -/
structure Numbering (names : List String) (count : Nat) (numbers : List Nat) : Prop where
  length : numbers.length = names.length
  bounds : ∀ i ∈ numbers, 1 ≤ i ∧ i ≤ count
  shared : ∀ j k : Nat, numbers[j]? = numbers[k]? ↔ names[j]? = names[k]?
  firsts : numbers.eraseDups = List.range' 1 count

section Numbers

variable {α β : Type} [DecidableEq α] [DecidableEq β]

lemma nodup_eraseDups (as : List α) : as.eraseDups.Nodup := by
  induction as using List.reverseRecOn with
  | nil => exact .nil
  | append_singleton as a ih =>
    rw [eraseDups_concat]
    split
    · exact ih
    · next ha =>
      refine List.nodup_append.mpr ⟨ih, List.nodup_singleton a, ?_⟩
      rintro b hb c hc rfl
      rw [List.mem_singleton.mp hc] at hb
      exact ha (List.mem_eraseDups.mp hb)

lemma eraseDups_map {f : α → β} {as : List α} (hf : ∀ a ∈ as, ∀ b ∈ as, f a = f b → a = b) :
    (as.map f).eraseDups = as.eraseDups.map f := by
  induction as using List.reverseRecOn with
  | nil => rfl
  | append_singleton as a ih =>
    have hmem : f a ∈ as.map f ↔ a ∈ as := by
      constructor
      · intro h
        obtain ⟨b, hb, hba⟩ := List.mem_map.mp h
        rwa [← hf b (List.mem_append_left _ hb) a (by simp) hba]
      · exact fun h => List.mem_map_of_mem h
    have hfas := ih fun b hb c hc => hf b (List.mem_append_left _ hb) c (List.mem_append_left _ hc)
    rw [List.map_append, List.map_singleton, eraseDups_concat, eraseDups_concat, hfas]
    by_cases ha : a ∈ as
    · rw [if_pos ha, if_pos (hmem.mpr ha)]
    · rw [if_neg ha, if_neg (mt hmem.mp ha), List.map_append, List.map_singleton]

omit [DecidableEq α] [DecidableEq β] in
lemma getElem?_map_eq_iff {f : α → β} {as : List α}
    (hf : ∀ a ∈ as, ∀ b ∈ as, f a = f b → a = b) (j k : Nat) :
    (as.map f)[j]? = (as.map f)[k]? ↔ as[j]? = as[k]? := by
  rw [List.getElem?_map, List.getElem?_map]
  constructor
  · intro h
    cases hj : as[j]? with
    | none =>
      rw [hj] at h
      exact (Option.map_eq_none_iff.mp h.symm).symm
    | some a =>
      rw [hj, Option.map_some] at h
      obtain ⟨b, hb, hba⟩ := Option.map_eq_some_iff.mp h.symm
      rw [hb, hf b (List.mem_of_getElem? hb) a (List.mem_of_getElem? hj) hba]
  · exact congrArg (Option.map f)

lemma map_idxOf_self {as : List α} (h : as.Nodup) :
    (as.map fun a => as.idxOf a + 1) = List.range' 1 as.length := by
  apply List.ext_getElem
  · simp
  · intro j hj _
    rw [List.length_map] at hj
    simp only [List.getElem_map, List.getElem_range', h.idxOf_getElem j hj]
    omega

end Numbers

def number (names : List String) (name : String) : Nat := names.eraseDups.idxOf name + 1

lemma number_inj {names : List String} :
    ∀ m ∈ names, ∀ n ∈ names, number names m = number names n → m = n := by
  intro m hm n _ h
  exact (List.idxOf_inj (List.mem_eraseDups.mpr hm)).mp (Nat.succ.inj h)

lemma numbering (names : List String) :
    Numbering names names.eraseDups.length (names.map (number names)) := by
  constructor
  · exact List.length_map _
  · intro i hi
    obtain ⟨name, hname, rfl⟩ := List.mem_map.mp hi
    have hlt := List.idxOf_lt_length_of_mem (List.mem_eraseDups.mpr hname)
    exact ⟨Nat.succ_pos _, hlt⟩
  · exact getElem?_map_eq_iff number_inj
  · rw [eraseDups_map number_inj]
    exact map_idxOf_self (nodup_eraseDups names)

section Dialects

variable {dialect other : Dialect}

lemma closing?_congr {c : Char} (h : dialect = .sqlServer → c ≠ '[')
    (h' : other = .sqlServer → c ≠ '[') :
    Token.closing? dialect c = Token.closing? other c := by
  have hb : ¬ (c = '[' ∧ dialect = .sqlServer) := fun hc => h hc.2 hc.1
  have hb' : ¬ (c = '[' ∧ other = .sqlServer) := fun hc => h' hc.2 hc.1
  simp [Token.closing?, hb, hb']

lemma next_congr {c : Char} (h : Token.closing? dialect c = Token.closing? other c)
    (cs : List Char) : Token.next dialect c cs = Token.next other c cs := by
  rw [Token.next.eq_def, Token.next.eq_def, h]

lemma mem_of_mem_next {c d : Char} {cs : List Char} (h : d ∈ (Token.next dialect c cs).2) :
    d ∈ c :: cs := by
  rw [(Token.next_sound dialect c cs).2]
  exact List.mem_append_right _ h

lemma tokens_congr {cs : List Char}
    (h : ∀ c ∈ cs, Token.closing? dialect c = Token.closing? other c) :
    tokens dialect cs = tokens other cs := by
  fun_induction tokens dialect cs with
  | case1 => rw [tokens]
  | case2 c cs ih =>
    have hnext := next_congr (h c List.mem_cons_self) cs
    rw [tokens_cons, ← hnext, ih fun d hd => h d (mem_of_mem_next hd)]

lemma fill_map (text : Nat → List Char) (f : String → Nat) (ts : List Token) :
    fill text ts ((names ts).map f) = ts.flatMap fun token =>
      match token.parameter? with
      | none => token.source
      | some name => text (f name) := by
  induction ts with
  | nil => rfl
  | cons token ts ih =>
    rw [List.flatMap_cons, ← ih, fill, names, List.filterMap_cons]
    cases token.parameter? <;> rfl

lemma flatMap_rewritten_eq_fill (dialect : Dialect) (ns : List String) (ts : List Token) :
    ts.flatMap (rewritten dialect (boundNames dialect ns)) =
      fill (placeholderText dialect) ts ((names ts).map (number ns)) := by
  rw [fill_map]
  refine List.flatMap_congr fun token _ => ?_
  rw [rewritten]
  cases token.parameter? with
  | none => rfl
  | some name =>
    cases hs : dialect.sharesValues with
    | false => rw [placeholderText_of_positional hs]
    | true => simp only [boundNames, hs, if_true, number]

lemma rewriting_eq_fill (dialect : Dialect) (ts : List Token) :
    rewriting dialect ts =
      String.ofList (fill (placeholderText dialect) ts
        ((names ts).map (number (names ts)))) := by
  rw [rewriting, flatMap_rewritten_eq_fill]

end Dialects

theorem bind_shared_agrees (shared positional : Dialect) (hs : shared.sharesValues = true)
    (hp : positional.sharesValues = false) (sql : String)
    (hb : shared = .sqlServer → '[' ∉ sql.toList) (parameters : Parameters) :
    (∃ name, bind sql parameters shared = .error (.missingParameter name) ∧
      bind sql parameters positional = .error (.missingParameter name)) ∨
    ∃ ts numbers values spread, Tokenisation shared sql.toList ts ∧
      Tokenisation positional sql.toList ts ∧
      bind sql parameters shared =
        .ok ⟨String.ofList (fill (placeholderText shared) ts numbers), values⟩ ∧
      bind sql parameters positional =
        .ok ⟨String.ofList (fill (fun _ => ['?']) ts numbers), spread⟩ ∧
      Numbering (names ts) values.length numbers ∧
      List.Forall₂ (fun name i => values[i - 1]? = parameters.get? name) (names ts) numbers ∧
      spread.map some = numbers.map fun i => values[i - 1]? := by
  have htokens : tokens shared sql.toList = tokens positional sql.toList := by
    refine tokens_congr fun c hc => closing?_congr ?_ ?_
    · rintro hserver rfl
      exact hb hserver hc
    · rintro rfl
      cases hp
  have hshared : Tokenisation shared sql.toList (tokens positional sql.toList) :=
    tokenisation_iff.mpr htokens.symm
  have hpositional := tokenisation_tokens positional sql.toList
  cases hfind : (names (tokens positional sql.toList)).find? (lacks parameters) with
  | some name =>
    exact Or.inl ⟨name, bind_missing (htokens ▸ hfind), bind_missing hfind⟩
  | none =>
    have hfound : (names (tokens shared sql.toList)).find? (lacks parameters) = none :=
      htokens ▸ hfind
    obtain ⟨values, hbind, hvalues⟩ := bind_ok hfound
    obtain ⟨spread, hspread, hspreads⟩ := bind_ok hfind
    rw [htokens, rewriting_eq_fill] at hbind
    rw [rewriting_eq_fill, placeholderText_of_positional hp] at hspread
    rw [htokens, boundNames, hs, if_pos rfl] at hvalues
    rw [boundNames, hp, if_neg Bool.false_ne_true] at hspreads
    generalize tokens positional sql.toList = ts at *
    have hlength : values.length = (names ts).eraseDups.length := by
      simpa using congrArg List.length hvalues
    have hnumber : ∀ name ∈ names ts,
        values[number (names ts) name - 1]? = parameters.get? name :=
      fun name hn => getElem?_idxOf hvalues (List.mem_eraseDups.mpr hn)
    refine Or.inr ⟨ts, (names ts).map (number (names ts)), values, spread, hshared, hpositional,
      hbind, hspread, hlength ▸ numbering (names ts), ?_, ?_⟩
    · rw [List.forall₂_map_right_iff, List.forall₂_same]
      exact hnumber
    · rw [hspreads, List.map_map]
      exact List.map_congr_left fun name hn => (hnumber name hn).symm

def boundedPrices : String := "SELECT '$1 @Min' FROM t WHERE a > @Min AND b = @Name OR c > @Min"

def priceBounds : Parameters :=
  (NameMap.empty.insert "Min" (.int 10)).insert "Name" (.text "a")

theorem bind_shared_agrees_boundedPrices :
    '[' ∉ boundedPrices.toList ∧
      bind boundedPrices priceBounds .sqlServer =
        .ok ⟨"SELECT '$1 @Min' FROM t WHERE a > @p1 AND b = @p2 OR c > @p1",
          [.int 10, .text "a"]⟩ ∧
      bind boundedPrices priceBounds .sqlite =
        .ok ⟨"SELECT '$1 @Min' FROM t WHERE a > ? AND b = ? OR c > ?",
          [.int 10, .text "a", .int 10]⟩ ∧
      ∃ numbers, Numbering ["Min", "Name", "Min"] 2 numbers ∧
        [Value.int 10, .text "a", .int 10].map some =
          numbers.map fun i => [Value.int 10, .text "a"][i - 1]? := by
  have hbracket : '[' ∉ boundedPrices.toList := by decide +kernel
  have hserverNames : names (tokens .sqlServer boundedPrices.toList) = ["Min", "Name", "Min"] := by
    decide +kernel
  have hnames : names (tokens .sqlite boundedPrices.toList) = ["Min", "Name", "Min"] := by
    decide +kernel
  have hserver : rewriting .sqlServer (tokens .sqlServer boundedPrices.toList) =
      "SELECT '$1 @Min' FROM t WHERE a > @p1 AND b = @p2 OR c > @p1" := by decide +kernel
  have hsqlite : rewriting .sqlite (tokens .sqlite boundedPrices.toList) =
      "SELECT '$1 @Min' FROM t WHERE a > ? AND b = ? OR c > ?" := by decide +kernel
  obtain ⟨name, -, h⟩ |
      ⟨ts, numbers, values, spread, -, hts, hbind, hspread, hnumbers, -, hvalues⟩ :=
    bind_shared_agrees .sqlServer .sqlite rfl rfl boundedPrices (fun _ => hbracket) priceBounds
  · have hok : (bind boundedPrices priceBounds .sqlite).isOk = true := by decide +kernel
    rw [h] at hok
    cases hok
  · rw [tokenisation_iff.mp hts, hnames] at hnumbers
    obtain ⟨htext, hfound⟩ := bound_of_bind hbind
    obtain ⟨hmarks, hfounds⟩ := bound_of_bind hspread
    rw [hserverNames] at hfound
    rw [hnames] at hfounds
    obtain rfl : values = [.int 10, .text "a"] := eq_of_map_some hfound
    obtain rfl : spread = [.int 10, .text "a", .int 10] := eq_of_map_some hfounds
    have htext : String.ofList (fill (placeholderText .sqlServer) ts numbers) = _ :=
      htext.trans hserver
    have hmarks : String.ofList (fill (fun _ => ['?']) ts numbers) = _ := hmarks.trans hsqlite
    rw [htext] at hbind
    rw [hmarks] at hspread
    exact ⟨hbracket, hbind, hspread, numbers, hnumbers, hvalues⟩

end SelectQuery.Binding
