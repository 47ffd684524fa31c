import Mathlib.Data.List.DropRight
import SelectQuery.Parameters

/-! The names that parameters are stored under. One pass takes the marks off a name, so that a mark
is left where white space parts it from another one. -/

namespace SelectQuery

namespace Entries

variable {α : Type} {entry : String × α} {entries : List (String × α)}

lemma mem_fst_iff {name : String} :
    name ∈ entries.map Prod.fst ↔ (entries.lookup name).isSome = true := by
  rw [List.lookup_isSome_iff, List.mem_map]
  simp only [beq_iff_eq, eq_comm (a := name)]

lemma mem_fst_insert {name n : String} {value : α} :
    n ∈ (insert name value entries).map Prod.fst ↔ n = name ∨ n ∈ entries.map Prod.fst := by
  rw [mem_fst_iff, mem_fst_iff, lookup_insert]
  by_cases h : n = name <;> simp [h]

lemma mem_foldl_insert {sorted : List (String × α)}
    (h : entry ∈ entries.foldl (fun sorted entry => insert entry.1 entry.2 sorted) sorted) :
    entry ∈ sorted ∨ entry ∈ entries := by
  induction entries generalizing sorted with
  | nil => exact Or.inl h
  | cons first entries ih =>
    rcases ih h with h | h
    · rcases mem_insert h with rfl | h
      · exact Or.inr List.mem_cons_self
      · exact Or.inl h
    · exact Or.inr (List.mem_cons_of_mem _ h)

lemma mem_ofList (h : entry ∈ ofList entries) : entry ∈ entries :=
  (mem_foldl_insert h).resolve_left List.not_mem_nil

lemma lookup_of_mem (h : Ordered entries) (he : entry ∈ entries) :
    entries.lookup entry.1 = some entry.2 := by
  induction entries with
  | nil => cases he
  | cons first entries ih =>
    obtain ⟨hfirst, hrest⟩ := List.pairwise_cons.mp h
    rw [lookup_cons]
    rcases List.mem_cons.mp he with rfl | he
    · exact if_pos rfl
    · have hne : entry.1 ≠ first.1 := fun heq => String.lt_irrefl _ (heq ▸ hfirst entry he)
      rw [if_neg hne]
      exact ih hrest he

end Entries

namespace NameMap

variable {α : Type} {map : NameMap α}

lemma get?_of_mem {name : String} {value : α} (h : (name, value) ∈ map.entries) :
    map.get? name = some value :=
  Entries.lookup_of_mem map.ordered h

end NameMap

namespace Text

structure Trimmed (cs : List Char) : Prop where
  left : trimLeft cs = cs
  right : trimRight cs = cs

variable {cs : List Char}

lemma trimRight_of_suffix {ds : List Char} (h : trimRight cs = cs) (hd : ds <:+ cs) :
    trimRight ds = ds := by
  refine List.rdropWhile_eq_self_iff.mpr fun hne => ?_
  rw [hd.getLast hne]
  exact List.rdropWhile_eq_self_iff.mp h _

lemma isSpace_head_of_trimLeft (h : trimLeft cs = cs) : ∀ c ∈ cs.head?, isSpace c = false := by
  intro c hc
  cases cs with
  | nil => cases hc
  | cons d ds =>
    cases Option.some.inj hc
    have hfirst := List.dropWhile_eq_self_iff.mp h (Nat.zero_lt_succ _)
    simpa using hfirst

lemma trimLeft_of_head {c : Char} (hc : isSpace c = false) : trimLeft (c :: cs) = c :: cs :=
  List.dropWhile_cons_of_neg (by simp [hc])

lemma trimLeft_append_of_spaces {spaces : List Char} (h : spaces.all isSpace = true) :
    trimLeft (spaces ++ cs) = trimLeft cs :=
  List.dropWhile_append_of_pos (List.all_eq_true.mp h)

lemma trimRight_append_of_head {c : Char} (hc : isSpace c = false) (before after : List Char) :
    trimRight (before ++ c :: after) = before ++ c :: trimRight after := by
  rw [trimRight, trimRight, List.reverse_append, List.reverse_cons, List.append_assoc,
    List.dropWhile_append]
  split
  · next hafter =>
    rw [List.isEmpty_iff.mp hafter, List.singleton_append,
      List.dropWhile_cons_of_neg (by simp [hc])]
    simp
  · simp

lemma exists_dropWhile (p : Char → Bool) (cs : List Char) :
    ∃ front, front.all p = true ∧ cs = front ++ cs.dropWhile p :=
  ⟨cs.takeWhile p, List.all_takeWhile, List.takeWhile_append_dropWhile.symm⟩

lemma exists_trim (cs : List Char) : ∃ before after,
    before.all isSpace = true ∧ cs = before ++ trim cs ++ after := by
  obtain ⟨before, hbefore, hcs⟩ := exists_dropWhile isSpace cs
  obtain ⟨after, hafter⟩ := List.rdropWhile_prefix isSpace (trimLeft cs)
  refine ⟨before, after, hbefore, ?_⟩
  rw [List.append_assoc]
  exact hcs.trans (congrArg (before ++ ·) hafter.symm)

lemma isSpace_head_trim (cs : List Char) : ∀ c ∈ (trim cs).head?, isSpace c = false := by
  intro c hc
  obtain ⟨tail, htail⟩ := List.head?_eq_some_iff.mp hc
  obtain ⟨after, hafter⟩ := List.rdropWhile_prefix isSpace (trimLeft cs)
  have htrim : (trimLeft cs).rdropWhile isSpace = c :: tail := htail
  apply isSpace_head_of_trimLeft (List.dropWhile_idempotent isSpace cs)
  rw [← trimLeft, ← hafter, htrim]
  rfl

end Text

namespace Parameters

open Text

lemma toList_normalName (name : String) :
    (normalName name).toList = trimLeft ((trim name.toList).dropWhile (· == '@')) :=
  String.toList_ofList

lemma trimmed_normalName (name : String) : Trimmed (normalName name).toList := by
  rw [toList_normalName]
  refine ⟨List.dropWhile_idempotent _ _, ?_⟩
  have hright : trimRight (trim name.toList) = trim name.toList := List.rdropWhile_idempotent _ _
  exact trimRight_of_suffix hright ((List.dropWhile_suffix _).trans (List.dropWhile_suffix _))

lemma normalName_eq_self {name : String} (h : Trimmed name.toList)
    (hmark : name.toList.head? ≠ some '@') : normalName name = name := by
  have htrim : trim name.toList = name.toList := by rw [trim, h.left, h.right]
  have hmarks : name.toList.dropWhile (· == '@') = name.toList := by
    cases hname : name.toList with
    | nil => rfl
    | cons c cs =>
      rw [hname] at hmark
      exact List.dropWhile_cons_of_neg (by simpa using hmark)
  rw [normalName, htrim, hmarks, h.left, String.ofList_toList]

lemma normalName_mark {name : String} (h : Trimmed name.toList) :
    normalName ("@" ++ name) = normalName name := by
  have htrim : trim name.toList = name.toList := by rw [trim, h.left, h.right]
  have hmarked : trim ('@' :: name.toList) = '@' :: name.toList := by
    rw [trim, trimLeft_of_head rfl]
    exact (trimRight_append_of_head rfl [] name.toList).trans
      (congrArg ('@' :: ·) h.right)
  have hlist : ("@" ++ name).toList = '@' :: name.toList := String.toList_append
  rw [normalName, normalName, hlist, hmarked, htrim, List.dropWhile_cons_of_pos rfl]

def MarkedTwice (name : String) : Prop :=
  ∃ before marks gap after, name.toList = before ++ (marks ++ (gap ++ '@' :: after)) ∧
    before.all isSpace = true ∧ marks ≠ [] ∧ marks.all (· == '@') = true ∧
    gap ≠ [] ∧ gap.all isSpace = true

lemma marked_of_markedTwice {name : String} (h : MarkedTwice name) :
    (normalName name).toList.head? = some '@' := by
  obtain ⟨before, marks, gap, after, hname, hbefore, hmarks, hmark, hgap, hspace⟩ := h
  obtain ⟨m, ms, rfl⟩ := List.exists_cons_of_ne_nil hmarks
  obtain ⟨g, gs, rfl⟩ := List.exists_cons_of_ne_nil hgap
  obtain rfl : m = '@' := by simpa using (List.all_eq_true.mp hmark) m List.mem_cons_self
  have hg : isSpace g = true := List.all_eq_true.mp hspace g List.mem_cons_self
  have hne : (g == '@') = false := by
    refine beq_false_of_ne ?_
    rintro rfl
    exact Bool.noConfusion hg
  have htrim : trim name.toList = ('@' :: ms) ++ ((g :: gs) ++ '@' :: trimRight after) := by
    rw [hname, trim, trimLeft_append_of_spaces hbefore, List.cons_append, trimLeft_of_head rfl,
      ← List.cons_append, ← List.append_assoc, trimRight_append_of_head rfl, List.append_assoc]
  rw [toList_normalName, htrim, List.dropWhile_append_of_pos (List.all_eq_true.mp hmark),
    List.cons_append, List.dropWhile_cons_of_neg (by simp [hne]), ← List.cons_append,
    trimLeft_append_of_spaces hspace, trimLeft_of_head rfl]
  rfl

lemma markedTwice_of_marked {name : String} (h : (normalName name).toList.head? = some '@') :
    MarkedTwice name := by
  rw [toList_normalName] at h
  obtain ⟨before, after, hbefore, hname⟩ := exists_trim name.toList
  have hfirst : ∀ c ∈ (trim name.toList).head?, isSpace c = false := isSpace_head_trim _
  generalize trim name.toList = named at h hname hfirst
  obtain ⟨tail, htail⟩ := List.head?_eq_some_iff.mp h
  obtain ⟨marks, hmarks, hnamed⟩ := exists_dropWhile (· == '@') named
  obtain ⟨gap, hgap, hrest⟩ := exists_dropWhile isSpace (named.dropWhile (· == '@'))
  have hrest : named.dropWhile (· == '@') = gap ++ '@' :: tail :=
    hrest.trans (congrArg (gap ++ ·) htail)
  have hnext := List.head?_dropWhile_not (· == '@') named
  rw [hrest] at hnamed hnext
  obtain ⟨space, spaces, rfl⟩ : ∃ space spaces, gap = space :: spaces := by
    refine List.exists_cons_of_ne_nil ?_
    rintro rfl
    exact Bool.noConfusion hnext
  refine ⟨before, marks, space :: spaces, tail ++ after, ?_, hbefore, ?_, hmarks,
    List.cons_ne_nil _ _, hgap⟩
  · rw [hname, hnamed]
    simp only [List.append_assoc, List.cons_append]
  · rintro rfl
    have hspace : isSpace space = true := List.all_eq_true.mp hgap space List.mem_cons_self
    have hno : isSpace space = false := hfirst space (by rw [hnamed]; rfl)
    exact Bool.noConfusion (hspace.symm.trans hno)

lemma marked_normalName_iff (name : String) :
    (normalName name).toList.head? = some '@' ↔ MarkedTwice name :=
  ⟨markedTwice_of_marked, marked_of_markedTwice⟩

/-- The parameters that a call leaves, also where it stops half-way. -/
def left : Except Stopped Parameters → Parameters
  | .ok p => p
  | .error stopped => stopped.parameters

/-- What calls make of the empty parameters when they pass given names only. -/
inductive Filled (given : String → Prop) : Parameters → Prop
  | empty : Filled given .empty
  | add {p q name value} : Filled given p → given name → p.add name value = .ok q → Filled given q
  | mergeObject {p j} : Filled given p → (∀ members ∈ j.asObject?, ∀ m ∈ members, given m.1) →
      Filled given (left (p.mergeObject j))
  | mergeNested {p q} : Filled given p → Filled given q → Filled given (left (p.mergeNested q))

def Named (given : String → Prop) (p : Parameters) : Prop :=
  ∀ name ∈ p.names, Text.isBlank name = false ∧ ∃ raw, given raw ∧ normalName raw = name

section Calls

variable {given : String → Prop} {p q : Parameters}

lemma Named.insert {name : String} (h : Named given p)
    (hname : Text.isBlank name = false ∧ ∃ raw, given raw ∧ normalName raw = name)
    (value : Value) : Named given (p.insert name value) := by
  intro n hn
  rcases Entries.mem_fst_insert.mp hn with rfl | hn
  · exact hname
  · exact h n hn

lemma add_ok_iff {name : String} {value : Value} : p.add name value = .ok q ↔
    Text.isBlank (normalName name) = false ∧ q = p.insert (normalName name) value := by
  rw [add, requireText]
  cases Text.isBlank (normalName name) with
  | true => exact ⟨nofun, nofun⟩
  | false =>
    constructor
    · intro h
      cases h
      exact ⟨rfl, rfl⟩
    · rintro ⟨-, rfl⟩
      rfl

lemma Named.add {name : String} {value : Value} (h : Named given p) (hname : given name)
    (hadd : p.add name value = .ok q) : Named given q := by
  obtain ⟨htext, rfl⟩ := add_ok_iff.mp hadd
  exact h.insert ⟨htext, name, hname, rfl⟩ value

lemma Named.addAll {members : List (String × Json)} (h : Named given p)
    (hm : ∀ m ∈ members, given m.1) : Named given (left (p.addAll members)) := by
  induction members generalizing p with
  | nil => exact h
  | cons m members ih =>
    obtain ⟨hfirst, hrest⟩ := List.forall_mem_cons.mp hm
    rw [Parameters.addAll]
    cases hadd : p.add m.1 (.ofJson m.2) with
    | ok q => exact ih (h.add hfirst hadd) hrest
    | error e => exact h

lemma Named.mergeObject {j : Json} (h : Named given p)
    (hj : ∀ members ∈ j.asObject?, ∀ m ∈ members, given m.1) :
    Named given (left (p.mergeObject j)) := by
  cases j with
  | object members =>
    refine h.addAll fun m hm => hj members rfl m ?_
    exact Entries.mem_ofList hm
  | null | bool b | int i | float x | string s | array js | void => exact h

lemma Named.mergeEntries {entries : List (String × Value)} (h : Named given p)
    (he : ∀ entry ∈ entries,
      Text.isBlank entry.1 = false ∧ ∃ raw, given raw ∧ normalName raw = entry.1) :
    Named given (left (p.mergeEntries entries)) := by
  induction entries generalizing p with
  | nil => exact h
  | cons entry entries ih =>
    obtain ⟨hfirst, hrest⟩ := List.forall_mem_cons.mp he
    rw [Parameters.mergeEntries]
    cases p.get? entry.1 with
    | none => exact ih (h.insert hfirst entry.2) hrest
    | some existing =>
      dsimp only
      split
      · exact ih h hrest
      · exact h

lemma Filled.named (h : Filled given p) : Named given p := by
  induction h with
  | empty => exact nofun
  | add _ hname hadd ih => exact ih.add hname hadd
  | mergeObject _ hj ih => exact ih.mergeObject hj
  | mergeNested _ _ ihp ihq =>
    exact ihp.mergeEntries fun entry hentry => ihq entry.1 (List.mem_map.mpr ⟨entry, hentry, rfl⟩)

end Calls

theorem names_of_filled (given : String → Prop) :
    (∀ p, Filled given p →
      (∀ name ∈ p.names,
        Text.isBlank name = false ∧ ∀ c ∈ name.toList.head?, Text.isSpace c = false) ∧
      ∀ entry ∈ p.entries, entry.1.toList.head? ≠ some '@' →
        p.value? entry.1 = some entry.2 ∧ p.value? ("@" ++ entry.1) = some entry.2) ∧
    ((∀ p, Filled given p → ∀ name ∈ p.names, name.toList.head? ≠ some '@') ↔
      ∀ raw, given raw → ¬ MarkedTwice raw) := by
  refine ⟨fun p h => ⟨?_, ?_⟩, ?_, ?_⟩
  · intro name hname
    obtain ⟨htext, raw, -, rfl⟩ := h.named name hname
    exact ⟨htext, isSpace_head_of_trimLeft (trimmed_normalName raw).left⟩
  · rintro ⟨name, value⟩ hentry hmark
    obtain ⟨-, raw, -, rfl⟩ := h.named name (List.mem_map.mpr ⟨_, hentry, rfl⟩)
    have htrimmed := trimmed_normalName raw
    have hget : p.get? (normalName raw) = some value := NameMap.get?_of_mem hentry
    rw [value?, value?, normalName_mark htrimmed, normalName_eq_self htrimmed hmark]
    exact ⟨hget, hget⟩
  · intro h raw hraw htwice
    have hmarked : (normalName raw).toList.head? = some '@' := marked_of_markedTwice htwice
    have htext : Text.isBlank (normalName raw) = false := by
      obtain ⟨tail, htail⟩ := List.head?_eq_some_iff.mp hmarked
      rw [Text.isBlank, htail]
      rfl
    have hadd : add .empty raw .null = .ok (NameMap.empty.insert (normalName raw) .null) :=
      add_ok_iff.mpr ⟨htext, rfl⟩
    exact h _ (.add .empty hraw hadd) (normalName raw) List.mem_cons_self hmarked
  · intro h p hp name hname hmark
    obtain ⟨-, raw, hraw, rfl⟩ := hp.named name hname
    exact h raw hraw (markedTwice_of_marked hmark)

theorem value?_markedTwice : ∃ p, Filled (· = "@ @x") p ∧
    ("@x", .int 1) ∈ p.entries ∧ "@x".toList.head? = some '@' ∧ p.value? "@x" = none :=
  ⟨NameMap.empty.insert "@x" (.int 1), .add .empty rfl rfl, List.mem_cons_self, rfl, rfl⟩

theorem names_of_filled_floor : ∃ p, Filled (· ∈ [" @Floor", "Name"]) p ∧
    p.value? "@Floor" = some (.int 5) ∧ p.value? "Name" = some (.text "a") ∧
    ∀ name ∈ p.names, name.toList.head? ≠ some '@' := by
  let floor : Parameters := NameMap.empty.insert "Floor" (.int 5)
  have hadd : add .empty " @Floor" (.int 5) = .ok floor := rfl
  have hfloor : Filled (· ∈ [" @Floor", "Name"]) floor := .add .empty List.mem_cons_self hadd
  have hnamed : Filled (· ∈ [" @Floor", "Name"])
      (left (floor.mergeObject (.object [("Name", .string "a")]))) := by
    refine .mergeObject hfloor ?_
    rintro members ⟨⟩ m hm
    rw [List.mem_singleton.mp hm]
    exact List.mem_cons_of_mem _ List.mem_cons_self
  obtain ⟨hfound, hmarks⟩ := names_of_filled (· ∈ [" @Floor", "Name"])
  obtain ⟨-, hvalues⟩ := hfound _ hnamed
  have hone : ∀ raw ∈ [" @Floor", "Name"], ¬ MarkedTwice raw := by
    intro raw hraw
    rw [← marked_normalName_iff]
    revert raw
    decide +kernel
  have hfloor' := (hvalues ("Floor", .int 5) List.mem_cons_self nofun).2
  have hname := (hvalues ("Name", .text "a") (List.mem_cons_of_mem _ List.mem_cons_self) nofun).1
  exact ⟨_, hnamed, hfloor', hname, hmarks.mpr hone _ hnamed⟩

end Parameters

end SelectQuery
