import Mathlib.Data.List.Basic
import Mathlib.Data.List.Induction
import SelectQuery.Binding.Basic
import SelectQuery.Proofs.Binding.Tokenisation
import SelectQuery.Proofs.Text.Basic

/-! Binding writes every token of a text as it stands, except that placeholders stand for the
parameters. -/

namespace SelectQuery.Binding

def names (ts : List Token) : List String := ts.filterMap Token.parameter?

def boundNames (dialect : Dialect) (names : List String) : List String :=
  if dialect.sharesValues then names.eraseDups else names

/-- The names that are bound behind others: where values are shared, those that did not occur. -/
def laterNames (dialect : Dialect) (before names : List String) : List String :=
  if dialect.sharesValues then (names.filter fun name => name ∉ before).eraseDups else names

/-- Where values are shared a placeholder shows the number of its value, elsewhere there is a
placeholder for each value. -/
def placeholderText (dialect : Dialect) (i : Nat) : List Char :=
  match dialect with
  | .sqlServer => '@' :: 'p' :: Nat.toDigits 10 i
  | .postgreSql => '$' :: Nat.toDigits 10 i
  | .mySql | .sqlite => ['?']

def rewritten (dialect : Dialect) (bound : List String) (token : Token) : List Char :=
  match token.parameter? with
  | none => token.source
  | some name => placeholderText dialect (bound.idxOf name + 1)

variable {dialect : Dialect}

@[simp] lemma toList_placeholder (dialect : Dialect) (i : Nat) :
    (dialect.placeholder i).toList = placeholderText dialect i := by
  cases dialect <;> simp [Dialect.placeholder, placeholderText, Text.ofNat, Text.natDigits]

lemma placeholderText_of_positional (h : dialect.sharesValues = false) :
    placeholderText dialect = fun _ => ['?'] := by
  funext i
  cases dialect with
  | sqlServer | postgreSql => cases h
  | mySql | sqlite => rfl

lemma names_append (ts us : List Token) : names (ts ++ us) = names ts ++ names us :=
  List.filterMap_append

lemma names_concat (ts : List Token) (token : Token) :
    names (ts ++ [token]) = names ts ++ token.parameter?.toList := by
  rw [names_append]
  cases h : token.parameter? <;> simp [names, h]

lemma eraseDups_concat {α : Type} [DecidableEq α] (as : List α) (a : α) :
    (as ++ [a]).eraseDups = if a ∈ as then as.eraseDups else as.eraseDups ++ [a] := by
  rw [List.eraseDups_append]
  by_cases h : a ∈ as <;> simp [List.removeAll, h, List.eraseDups_cons]

lemma mem_boundNames {names : List String} {name : String} :
    name ∈ boundNames dialect names ↔ name ∈ names := by
  unfold boundNames
  split <;> simp

lemma boundNames_concat (names : List String) (name : String) :
    boundNames dialect (names ++ [name]) =
      if dialect.sharesValues = true ∧ name ∈ names then boundNames dialect names
      else boundNames dialect names ++ [name] := by
  unfold boundNames
  cases dialect.sharesValues with
  | false => simp
  | true => simp [eraseDups_concat]

lemma boundNames_append (before names : List String) :
    boundNames dialect (before ++ names) =
      boundNames dialect before ++ laterNames dialect before names := by
  unfold boundNames laterNames
  split
  · rw [List.eraseDups_append]
    simp [List.removeAll]
  · rfl

lemma idxOf_boundNames_append {before : List String} {name : String} (more : List String)
    (h : name ∈ before) : (boundNames dialect (before ++ more)).idxOf name =
      (boundNames dialect before).idxOf name := by
  rw [boundNames_append, List.idxOf_append, if_pos (mem_boundNames.mpr h)]

lemma flatMap_rewritten_append (ts : List Token) (more : List String) :
    ts.flatMap (rewritten dialect (boundNames dialect (names ts ++ more))) =
      ts.flatMap (rewritten dialect (boundNames dialect (names ts))) := by
  refine List.flatMap_congr fun token htoken => ?_
  unfold rewritten
  cases hn : token.parameter? with
  | none => rfl
  | some name =>
    have hm : name ∈ names ts := List.mem_filterMap.mpr ⟨token, htoken, hn⟩
    simp only [idxOf_boundNames_append more hm]

structure Progress.Records (dialect : Dialect) (parameters : Parameters) (ts : List Token)
    (progress : Progress) : Prop where
  sql : progress.sql.toList = ts.flatMap (rewritten dialect (boundNames dialect (names ts)))
  values : progress.values.map some = (boundNames dialect (names ts)).map parameters.value?
  slots : dialect.sharesValues = true → ∀ name, progress.slots.get? name =
    if name ∈ names ts then some ((boundNames dialect (names ts)).idxOf name + 1) else none

namespace Progress

variable {parameters : Parameters} {ts : List Token} {progress : Progress}

lemma records_start (dialect : Dialect) (parameters : Parameters) :
    Records dialect parameters [] {} := by
  constructor
  · rfl
  · simp [names, boundNames]
  · intro _ name
    rfl

lemma Records.length (h : Records dialect parameters ts progress) :
    progress.values.length = (boundNames dialect (names ts)).length := by
  simpa using congrArg List.length h.values

lemma Records.copy (h : Records dialect parameters ts progress) {token : Token}
    (ht : token.parameter? = none) :
    Records dialect parameters (ts ++ [token]) (progress.write (String.ofList token.source)) := by
  have hn : names (ts ++ [token]) = names ts := by simp [names_concat, ht]
  refine ⟨?_, ?_, ?_⟩
  · rw [hn, List.flatMap_append, ← h.sql]
    simp [write, rewritten, ht]
  · rw [hn]
    exact h.values
  · rw [hn]
    exact h.slots

lemma Records.append (h : Records dialect parameters ts progress) {token : Token} {name : String}
    {value : Value} (ht : token.parameter? = some name) (hv : parameters.value? name = some value)
    (hn : ¬ (dialect.sharesValues = true ∧ name ∈ names ts)) :
    (progress.append dialect value).sql.toList =
        (ts ++ [token]).flatMap (rewritten dialect (boundNames dialect (names (ts ++ [token])))) ∧
      (progress.append dialect value).values.map some =
        (boundNames dialect (names (ts ++ [token]))).map parameters.value? := by
  have hnames : names (ts ++ [token]) = names ts ++ [name] := by simp [names_concat, ht]
  have hindex : placeholderText dialect (progress.values.length + 1) =
      placeholderText dialect ((boundNames dialect (names ts ++ [name])).idxOf name + 1) := by
    cases hs : dialect.sharesValues with
    | false => rw [placeholderText_of_positional hs]
    | true =>
      have hm : name ∉ boundNames dialect (names ts) := fun hm => hn ⟨hs, mem_boundNames.mp hm⟩
      rw [boundNames_concat, if_neg hn, List.idxOf_append, if_neg hm, h.length]
      simp
  constructor
  · rw [hnames, List.flatMap_append, flatMap_rewritten_append, ← h.sql]
    simp [Progress.append, write, rewritten, ht, hindex]
  · rw [hnames, boundNames_concat, if_neg hn, List.map_append, ← h.values]
    simp [Progress.append, write, hv]

lemma Records.share (h : Records dialect parameters ts progress) {token : Token} {name : String}
    (ht : token.parameter? = some name) (hs : dialect.sharesValues = true) (hm : name ∈ names ts) :
    Records dialect parameters (ts ++ [token]) (progress.write
      (dialect.placeholder ((boundNames dialect (names ts)).idxOf name + 1))) := by
  have hnames : names (ts ++ [token]) = names ts ++ [name] := by simp [names_concat, ht]
  have hbound : boundNames dialect (names ts ++ [name]) = boundNames dialect (names ts) := by
    rw [boundNames_concat, if_pos ⟨hs, hm⟩]
  constructor
  · rw [hnames, List.flatMap_append, flatMap_rewritten_append, ← h.sql, hbound]
    simp [write, rewritten, ht]
  · rw [hnames, hbound]
    exact h.values
  · intro _ other
    have hiff : other ∈ names ts ++ [name] ↔ other ∈ names ts := by
      rw [List.mem_append, List.mem_singleton, or_iff_left_iff_imp]
      rintro rfl
      exact hm
    rw [hnames, hbound]
    simp only [hiff]
    exact h.slots hs other

lemma Records.number (h : Records dialect parameters ts progress) {token : Token} {name : String}
    {value : Value} (ht : token.parameter? = some name) (hv : parameters.value? name = some value)
    (hs : dialect.sharesValues = true) (hm : name ∉ names ts) :
    Records dialect parameters (ts ++ [token]) { progress.append dialect value with
      slots := progress.slots.insert name (progress.values.length + 1) } := by
  have hnames : names (ts ++ [token]) = names ts ++ [name] := by simp [names_concat, ht]
  have hn : ¬ (dialect.sharesValues = true ∧ name ∈ names ts) := fun hn => hm hn.2
  obtain ⟨hsql, hvalues⟩ := h.append ht hv hn
  refine ⟨hsql, hvalues, ?_⟩
  intro _ other
  rw [hnames, boundNames_concat, if_neg hn, NameMap.get?_insert, h.slots hs other,
    List.idxOf_append, h.length]
  by_cases ho : other = name
  · subst ho
    have hb : other ∉ boundNames dialect (names ts) := fun hb => hm (mem_boundNames.mp hb)
    simp [hb]
  · by_cases hother : other ∈ names ts
    · simp [ho, hother, mem_boundNames]
    · simp [ho, hother]

lemma Records.occurrence (h : Records dialect parameters ts progress) {token : Token}
    {name : String} {value : Value} (ht : token.parameter? = some name)
    (hv : parameters.value? name = some value) :
    Records dialect parameters (ts ++ [token]) (progress.occurrence dialect name value) := by
  unfold Progress.occurrence
  cases hs : dialect.sharesValues with
  | false =>
    obtain ⟨hsql, hvalues⟩ := h.append ht hv (by simp [hs])
    exact ⟨hsql, hvalues, by simp [hs]⟩
  | true =>
    rw [if_pos rfl, h.slots hs name]
    by_cases hm : name ∈ names ts
    · rw [if_pos hm]
      exact h.share ht hs hm
    · rw [if_neg hm]
      exact h.number ht hv hs hm

lemma take_of_other {token : Token} (ht : token.parameter? = none) :
    progress.take dialect parameters token = .ok (progress.write (String.ofList token.source)) := by
  rw [take, ht]

lemma take_of_missing {token : Token} {name : String} (ht : token.parameter? = some name)
    (hv : parameters.value? name = none) :
    progress.take dialect parameters token = .error (.missingParameter name) := by
  rw [take, ht]
  simp only [hv]

lemma take_of_value {token : Token} {name : String} {value : Value}
    (ht : token.parameter? = some name) (hv : parameters.value? name = some value) :
    progress.take dialect parameters token = .ok (progress.occurrence dialect name value) := by
  rw [take, ht]
  simp only [hv]

end Progress

open Progress

lemma scan_eq_foldlM (dialect : Dialect) (parameters : Parameters) (cs : List Char)
    (progress : Progress) :
    scan dialect parameters cs progress =
      (tokens dialect cs).foldlM (take dialect parameters) progress := by
  fun_induction tokens dialect cs generalizing progress with
  | case1 => rw [scan]; rfl
  | case2 c cs ih =>
    rw [scan, List.foldlM_cons]
    exact congrArg _ (funext ih)

def lacks (parameters : Parameters) (name : String) : Bool := (parameters.get? name).isNone

section Run

variable {parameters : Parameters} {ts : List Token}

lemma foldlM_concat (start : Progress) (token : Token) :
    (ts ++ [token]).foldlM (take dialect parameters) start =
      (ts.foldlM (take dialect parameters) start >>= fun progress =>
        take dialect parameters progress token) := by
  rw [List.foldlM_append]
  congr 1
  funext progress
  exact bind_pure _

/-- A scan stops at the first missing parameter, and only there. -/
def Scanned (dialect : Dialect) (parameters : Parameters) (ts : List Token)
    (outcome : Except Error Progress) : Prop :=
  match (names ts).find? (lacks parameters) with
  | some name => outcome = .error (.missingParameter name)
  | none => ∃ progress, outcome = .ok progress ∧ Records dialect parameters ts progress

lemma Scanned.take {outcome : Except Error Progress} {token : Token}
    (h : Scanned dialect parameters ts outcome)
    (ht : ∀ name, token.parameter? = some name → parameters.value? name = parameters.get? name) :
    Scanned dialect parameters (ts ++ [token])
      (outcome >>= fun progress => progress.take dialect parameters token) := by
  unfold Scanned at h ⊢
  rw [names_concat, List.find?_append]
  cases hfind : (names ts).find? (lacks parameters) with
  | some missing =>
    rw [hfind] at h
    rw [h]
    rfl
  | none =>
    rw [hfind] at h
    obtain ⟨progress, rfl, hrecords⟩ := h
    rw [Option.none_or]
    cases hp : token.parameter? with
    | none => exact ⟨_, take_of_other hp, hrecords.copy hp⟩
    | some name =>
      have hname : parameters.value? name = parameters.get? name := ht name hp
      rw [Option.toList_some, List.find?_singleton, lacks]
      cases hv : parameters.get? name with
      | none => exact take_of_missing hp (hname.trans hv)
      | some value =>
        have hvalue := hname.trans hv
        exact ⟨_, take_of_value hp hvalue, hrecords.occurrence hp hvalue⟩

lemma scanned_foldlM (hts : ∀ name ∈ names ts, parameters.value? name = parameters.get? name) :
    Scanned dialect parameters ts (ts.foldlM (take dialect parameters) {}) := by
  -- numbers and slots depend on the tokens before, so tokens are added at the end
  induction ts using List.reverseRecOn with
  | nil => exact ⟨{}, rfl, records_start dialect parameters⟩
  | append_singleton ts token ih =>
    rw [names_concat] at hts
    rw [foldlM_concat]
    apply (ih fun name h => hts name (List.mem_append_left _ h)).take
    intro name hp
    exact hts name (by simp [hp])

end Run

lemma stands_of_mem {cs : List Char} {ts : List Token} (h : Tokenisation dialect cs ts)
    {token : Token} (ht : token ∈ ts) : ∃ rest, token.Stands dialect rest := by
  induction h with
  | nil => cases ht
  | cons hs _ ih =>
    rcases List.mem_cons.mp ht with rfl | ht
    · exact ⟨_, hs⟩
    · exact ih ht

lemma isIdentifier_of_mem_names {cs : List Char} {ts : List Token}
    (h : Tokenisation dialect cs ts) {name : String} (hn : name ∈ names ts) :
    Text.IsIdentifier name.toList := by
  obtain ⟨token, ht, hp⟩ := List.mem_filterMap.mp hn
  obtain ⟨rest, hs⟩ := stands_of_mem h ht
  cases token with
  | parameter cs =>
    cases Option.some.inj hp
    simpa using hs.1
  | quoted | lineComment | blockComment | system | other => cases hp

lemma value?_of_mem_names (parameters : Parameters) {cs : List Char} {name : String}
    (h : name ∈ names (tokens dialect cs)) : parameters.value? name = parameters.get? name := by
  have hi := isIdentifier_of_mem_names (tokenisation_tokens dialect cs) h
  have hv := parameters.value?_of_inIdentifier (Text.inIdentifier_of_isIdentifier hi)
  rwa [String.ofList_toList] at hv

def rewriting (dialect : Dialect) (ts : List Token) : String :=
  String.ofList (ts.flatMap (rewritten dialect (boundNames dialect (names ts))))

lemma scanned_tokens (dialect : Dialect) (parameters : Parameters) (cs : List Char) :
    Scanned dialect parameters (tokens dialect cs) (scan dialect parameters cs {}) := by
  rw [scan_eq_foldlM]
  exact scanned_foldlM fun _ hn => value?_of_mem_names parameters hn

lemma bind_missing {sql name : String} {parameters : Parameters}
    (h : (names (tokens dialect sql.toList)).find? (lacks parameters) = some name) :
    bind sql parameters dialect = .error (.missingParameter name) := by
  have hscan := scanned_tokens dialect parameters sql.toList
  rw [Scanned, h] at hscan
  have hscan : scan dialect parameters sql.toList {} = .error (.missingParameter name) := hscan
  rw [bind, hscan]
  rfl

lemma bind_ok {sql : String} {parameters : Parameters}
    (h : (names (tokens dialect sql.toList)).find? (lacks parameters) = none) :
    ∃ values, bind sql parameters dialect =
        .ok ⟨rewriting dialect (tokens dialect sql.toList), values⟩ ∧
      values.map some =
        (boundNames dialect (names (tokens dialect sql.toList))).map parameters.get? := by
  have hscan := scanned_tokens dialect parameters sql.toList
  rw [Scanned, h] at hscan
  obtain ⟨progress, hrun, hrecords⟩ := hscan
  refine ⟨progress.values, ?_, ?_⟩
  · rw [bind, hrun, rewriting, ← hrecords.sql, String.ofList_toList]
    rfl
  · rw [hrecords.values]
    exact List.map_congr_left fun name hn =>
      value?_of_mem_names parameters (mem_boundNames.mp hn)

lemma missing_of_bind {sql : String} {parameters : Parameters} {e : Error}
    (h : bind sql parameters dialect = .error e) : ∃ name, e = .missingParameter name := by
  cases hfind : (names (tokens dialect sql.toList)).find? (lacks parameters) with
  | some name =>
    rw [bind_missing hfind] at h
    exact ⟨name, (Except.error.inj h).symm⟩
  | none =>
    obtain ⟨values, hbind, -⟩ := bind_ok hfind
    rw [hbind] at h
    cases h

lemma bound_of_bind {sql : String} {parameters : Parameters} {bound : BoundQuery}
    (h : bind sql parameters dialect = .ok bound) :
    bound.sql = rewriting dialect (tokens dialect sql.toList) ∧
      bound.values.map some =
        (boundNames dialect (names (tokens dialect sql.toList))).map parameters.get? := by
  cases hfind : (names (tokens dialect sql.toList)).find? (lacks parameters) with
  | some name =>
    rw [bind_missing hfind] at h
    cases h
  | none =>
    obtain ⟨values, hbind, hvalues⟩ := bind_ok hfind
    rw [hbind] at h
    cases h
    exact ⟨rfl, hvalues⟩

/-- The value behind each occurrence of a parameter: the one with its number, or the next one. -/
def occurrenceValues (dialect : Dialect) (ns : List String) (values : List Value) :
    List (Option Value) :=
  if dialect.sharesValues then ns.map fun name => values[(boundNames dialect ns).idxOf name]?
  else values.map some

lemma getElem?_idxOf {values : List Value} {bound : List String} {parameters : Parameters}
    (h : values.map some = bound.map parameters.get?) {name : String} (hn : name ∈ bound) :
    values[bound.idxOf name]? = parameters.get? name := by
  have hlt : bound.idxOf name < bound.length := List.idxOf_lt_length_of_mem hn
  have hat := congrArg (fun vs => vs[bound.idxOf name]?) h
  simp only [List.getElem?_map, List.getElem?_eq_getElem hlt, List.getElem_idxOf] at hat
  cases hv : values[bound.idxOf name]? with
  | none =>
    rw [hv] at hat
    cases hat
  | some v =>
    rw [hv] at hat
    exact Option.some.inj hat

lemma occurrenceValues_eq {ns : List String} {values : List Value} {parameters : Parameters}
    (h : values.map some = (boundNames dialect ns).map parameters.get?) :
    occurrenceValues dialect ns values = ns.map parameters.get? := by
  rw [occurrenceValues]
  cases hs : dialect.sharesValues with
  | false =>
    rw [if_neg Bool.false_ne_true, h, boundNames, hs, if_neg Bool.false_ne_true]
  | true =>
    rw [if_pos rfl]
    exact List.map_congr_left fun name hn => getElem?_idxOf h (mem_boundNames.mpr hn)

lemma eq_of_map_some {α : Type} {as bs : List α} (h : as.map some = bs.map some) : as = bs :=
  (List.map_inj_right fun _ _ => Option.some.inj).mp h

lemma find?_lacks_congr {parameters others : Parameters} {names : List String}
    (h : ∀ name ∈ names, others.get? name = parameters.get? name) :
    names.find? (lacks others) = names.find? (lacks parameters) := by
  induction names with
  | nil => rfl
  | cons name names ih =>
    have hn : lacks others name = lacks parameters name := by
      rw [lacks, lacks, h name List.mem_cons_self]
    rw [List.find?_cons, List.find?_cons, hn, ih fun n hm => h n (List.mem_cons_of_mem _ hm)]

lemma bind_congr {sql : String} {parameters others : Parameters}
    (h : ∀ name ∈ names (tokens dialect sql.toList), others.get? name = parameters.get? name) :
    bind sql others dialect = bind sql parameters dialect := by
  have hfind := find?_lacks_congr h
  cases hp : (names (tokens dialect sql.toList)).find? (lacks parameters) with
  | some name => rw [bind_missing hp, bind_missing (hfind.trans hp)]
  | none =>
    obtain ⟨vs, hvs, hv⟩ := bind_ok hp
    obtain ⟨ws, hws, hw⟩ := bind_ok (hfind.trans hp)
    have hmap : ws.map some = vs.map some := by
      rw [hv, hw]
      exact List.map_congr_left fun name hn => h name (mem_boundNames.mp hn)
    rw [hvs, hws, eq_of_map_some hmap]

theorem bind_replaces_parameters (sql : String) (dialect : Dialect) :
    ∃ ts, (∀ us, Tokenisation dialect sql.toList us ↔ us = ts) ∧ ∀ parameters : Parameters,
      (∀ name, (names ts).find? (lacks parameters) = some name →
        bind sql parameters dialect = .error (.missingParameter name)) ∧
      ((∀ name ∈ names ts, (parameters.get? name).isSome = true) →
        ∃ values, bind sql parameters dialect = .ok ⟨String.ofList (ts.flatMap fun token =>
            match token.parameter? with
            | none => token.source
            | some name =>
              placeholderText dialect ((boundNames dialect (names ts)).idxOf name + 1)), values⟩ ∧
          values.map some = (boundNames dialect (names ts)).map parameters.get?) ∧
      ∀ others : Parameters, (∀ name ∈ names ts, others.get? name = parameters.get? name) →
        bind sql others dialect = bind sql parameters dialect := by
  refine ⟨tokens dialect sql.toList, fun _ => tokenisation_iff, ?_⟩
  intro parameters
  refine ⟨fun _ h => bind_missing h, ?_, fun _ h => bind_congr h⟩
  intro h
  apply bind_ok
  rw [List.find?_eq_none]
  intro name hn
  simp [lacks, Option.isNone_eq_false_iff.mpr (h name hn)]

example : names (tokens .sqlite "/*/ @a */ @b@@c 'it''s @d' x@ @>y".toList) = ["b"] := by
  decide +kernel

end SelectQuery.Binding
