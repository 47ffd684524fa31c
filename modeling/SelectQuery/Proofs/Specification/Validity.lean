import Mathlib.Tactic.Lemma
import SelectQuery.Specification.Validation

namespace SelectQuery

def UnionMember.map {α β : Type} (g : α → β) (m : UnionMember α) : UnionMember β :=
  ⟨g m.query, m.all⟩

def DerivedTable.map {α β : Type} (g : α → β) (d : DerivedTable α) : DerivedTable β :=
  ⟨g d.query, d.label⟩

def CommonTable.map {α β : Type} (g : α → β) (c : CommonTable α) : CommonTable β :=
  ⟨c.name, g c.query⟩

namespace Specification

def parts (s : Specification) : List Specification :=
  s.unions.map (·.query) ++ s.source.toList.map (·.query) ++ s.ctes.map (·.query)

lemma mem_parts {s q : Specification} : q ∈ s.parts ↔ (∃ m ∈ s.unions, m.query = q) ∨
    (∃ d ∈ s.source, d.query = q) ∨ ∃ c ∈ s.ctes, c.query = q := by
  simp only [parts, List.mem_append, List.mem_map, Option.mem_toList, Option.mem_def, or_assoc]

inductive Nested : Specification → Specification → Prop
  | self {s} : Nested s s
  | part {s q t} : q ∈ s.parts → Nested q t → Nested s t

def clauseTexts (s : Specification) : List String :=
  [s.projection, s.joins, s.filter, s.grouping, s.groupFilter, s.ordering]

structure Valid (s : Specification) : Prop where
  clauses : ∀ text ∈ s.clauseTexts, text.isEmpty = true ∨ Text.isBlank text = false
  paging : checkPaging s.skip s.take = .ok ()
  unions : ∀ m ∈ s.unions, m.query.validate = .ok ()
  source : ∀ d ∈ s.source, Text.isBlank d.label = false ∧ d.query.validate = .ok ()
  ctes : ∀ c ∈ s.ctes, Text.isBlank c.name = false ∧ c.query.validate = .ok ()

lemma bind_eq_ok {α β : Type} {x : Except Error α} {f : α → Except Error β} {b : β}
    (h : x >>= f = .ok b) : ∃ a, x = .ok a ∧ f a = .ok b := by
  cases x with
  | error e => cases h
  | ok a => exact ⟨a, rfl, h⟩

lemma andThen_ok_iff {first second : Except Error Unit} :
    (first >>= fun _ => second) = .ok () ↔ first = .ok () ∧ second = .ok () := by
  cases first with
  | error e => exact ⟨nofun, fun h => by cases h.1⟩
  | ok _ => exact (and_iff_right rfl).symm

lemma requireText_ok_iff (value argument : String) :
    requireText value argument = .ok () ↔ Text.isBlank value = false := by
  rw [requireText]
  cases Text.isBlank value <;> simp

lemma checkClauses_ok_iff {texts : List String} :
    checkClauses texts = .ok () ↔
      ∀ text ∈ texts, text.isEmpty = true ∨ Text.isBlank text = false := by
  induction texts with
  | nil => exact ⟨fun _ => nofun, fun _ => rfl⟩
  | cons text texts ih =>
    rw [checkClauses, List.forall_mem_cons, ← ih]
    cases he : text.isEmpty with
    | true => simp
    | false =>
      rw [← requireText_ok_iff text "clause"]
      simpa using andThen_ok_iff

lemma validateMembers_ok_iff {ms : List (UnionMember Specification)} :
    validateMembers ms = .ok () ↔ ∀ m ∈ ms, m.query.validate = .ok () := by
  induction ms with
  | nil => exact ⟨fun _ => nofun, fun _ => rfl⟩
  | cons m ms ih => rw [validateMembers, andThen_ok_iff, ih, List.forall_mem_cons]

lemma validateSource_ok_iff {source : Option (DerivedTable Specification)} :
    validateSource source = .ok () ↔
      ∀ d ∈ source, Text.isBlank d.label = false ∧ d.query.validate = .ok () := by
  cases source with
  | none => exact ⟨fun _ => nofun, fun _ => rfl⟩
  | some d => simp [validateSource, andThen_ok_iff, requireText_ok_iff]

lemma validateCtes_ok_iff {cs : List (CommonTable Specification)} :
    validateCtes cs = .ok () ↔
      ∀ c ∈ cs, Text.isBlank c.name = false ∧ c.query.validate = .ok () := by
  induction cs with
  | nil => exact ⟨fun _ => nofun, fun _ => rfl⟩
  | cons c cs ih =>
    rw [validateCtes, andThen_ok_iff, andThen_ok_iff, ih, requireText_ok_iff, List.forall_mem_cons,
      and_assoc]

lemma validate_eq (s : Specification) :
    s.validate = (do
      checkClauses s.clauseTexts
      checkPaging s.skip s.take
      validateMembers s.unions
      validateSource s.source
      validateCtes s.ctes) := by
  cases s
  rw [validate]
  rfl

lemma validate_ok_iff {s : Specification} : s.validate = .ok () ↔ Valid s := by
  rw [validate_eq, andThen_ok_iff, andThen_ok_iff, andThen_ok_iff, andThen_ok_iff,
    checkClauses_ok_iff, validateMembers_ok_iff, validateSource_ok_iff, validateCtes_ok_iff]
  constructor
  · rintro ⟨hclauses, hpaging, hunions, hsource, hctes⟩
    exact ⟨hclauses, hpaging, hunions, hsource, hctes⟩
  · rintro ⟨hclauses, hpaging, hunions, hsource, hctes⟩
    exact ⟨hclauses, hpaging, hunions, hsource, hctes⟩

section Nested

variable {g : Specification → Specification}

lemma validateMembers_map {ms : List (UnionMember Specification)}
    (h : ∀ m ∈ ms, (g m.query).validate = m.query.validate) :
    validateMembers (ms.map (.map g)) = validateMembers ms := by
  induction ms with
  | nil => rfl
  | cons m ms ih =>
    obtain ⟨hfirst, hrest⟩ := List.forall_mem_cons.mp h
    rw [List.map_cons, validateMembers, validateMembers, ih hrest, UnionMember.map, hfirst]

lemma validateSource_map {source : Option (DerivedTable Specification)}
    (h : ∀ d ∈ source, (g d.query).validate = d.query.validate) :
    validateSource (source.map (.map g)) = validateSource source := by
  cases source with
  | none => rfl
  | some d => rw [Option.map_some, validateSource, validateSource, DerivedTable.map, h d rfl]

lemma validateCtes_map {cs : List (CommonTable Specification)}
    (h : ∀ c ∈ cs, (g c.query).validate = c.query.validate) :
    validateCtes (cs.map (.map g)) = validateCtes cs := by
  induction cs with
  | nil => rfl
  | cons c cs ih =>
    obtain ⟨hfirst, hrest⟩ := List.forall_mem_cons.mp h
    rw [List.map_cons, validateCtes, validateCtes, ih hrest, CommonTable.map, hfirst]

end Nested

end Specification

end SelectQuery
