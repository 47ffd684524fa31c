import SelectQuery.Proofs.Query.Pieces
import SelectQuery.Proofs.Query.Success
import SelectQuery.Proofs.Specification.Validity

/-! The text of a query is put together from its clauses and from the texts of its nested queries,
each as it is compiled alone. -/

namespace SelectQuery.Specification

open Binding
open Binding.Piece (spell spell_append)
open Parameters (Agree)

def text (dialect : Dialect) (s : Specification) : String := spell (s.pieces dialect)

def coreText (s : Specification) (origin : String) : String :=
  s.selection ++ origin ++ s.restrictions

def derivedText (label query : String) : String := "(" ++ query ++ ") " ++ label

def origin (dialect : Dialect) (s : Specification) : String :=
  match s.source with
  | none => s.table
  | some d => derivedText d.label (d.query.text dialect)

def definitionText (name query : String) : String := name ++ " AS (" ++ query ++ ")"

def withText : List String → String
  | [] => ""
  | part :: parts => "WITH " ++ ", ".intercalate (part :: parts) ++ " "

def memberText (m : UnionMember Specification) (core : String) : String :=
  (if m.all then " UNION ALL " else " UNION ") ++ core

def closingText (dialect : Dialect) (s : Specification) : String :=
  clause " ORDER BY " s.ordering ++
    match s.paging with
    | none => ""
    | some (skip, take) => dialect.paging skip take

section Spelling

variable {α : Type} {dialect : Dialect} {s : Specification}

lemma spell_flatMap (as : List α) (f : α → List (Piece Specification)) :
    spell (as.flatMap f) = String.join (as.map fun a => spell (f a)) := by
  induction as with
  | nil => rfl
  | cons a as ih => rw [List.flatMap_cons, spell_append, ih, List.map_cons, String.join_cons]

lemma spell_intercalate (separator : String) (pss : List (List (Piece Specification))) :
    spell (List.intercalate [.words separator] pss) = separator.intercalate (pss.map spell) := by
  induction pss with
  | nil => rfl
  | cons ps pss ih =>
    cases pss with
    | nil => simp [List.intercalate]
    | cons qs pss =>
      rw [List.intercalate_cons_cons, spell_append, spell_append, ih]
      simp [spell, Piece.text]

lemma spell_withPieces (pss : List (List (Piece Specification))) :
    spell (withPieces pss) = withText (pss.map spell) := by
  cases pss with
  | nil => rfl
  | cons ps pss =>
    have hparts := spell_intercalate ", " (ps :: pss)
    simp [withPieces, withText, spell, spell_append, Piece.text, hparts, String.append_assoc]

lemma spell_corePieces (dialect : Dialect) (s : Specification) :
    spell (s.corePieces (s.sourcePieces dialect)) = s.coreText (s.origin dialect) := by
  rw [corePieces, spell_append, spell_append, spell_selectionPieces, spell_restrictionPieces,
    coreText, tablePieces, origin]
  cases hs : s.source with
  | none => simp [spell, Piece.text]
  | some d =>
    simp [sourcePieces, hs, spell, spell_append, Piece.text, derivedText, text, String.append_assoc]

lemma spell_ctePieces (name : String) (inner : List (Piece Specification)) :
    spell (s.ctePieces inner name) = definitionText name (spell inner) := by
  simp [ctePieces, spell, spell_append, Piece.text, definitionText, String.append_assoc]

lemma spell_memberPieces (m : UnionMember Specification) :
    spell (memberPieces (m.query.sourcePieces dialect) m) =
      memberText m (m.query.coreText (m.query.origin dialect)) := by
  rw [memberPieces, spell, spell_corePieces, Piece.text, memberText]

lemma text_eq (dialect : Dialect) (s : Specification) :
    s.text dialect =
      withText ((firsts s.tables).map fun c => definitionText c.name (c.query.text dialect)) ++
        s.coreText (s.origin dialect) ++
        String.join (s.unions.map fun m =>
          memberText m (m.query.coreText (m.query.origin dialect))) ++
        s.closingText dialect := by
  have hpaging : spell (s.pagingPieces dialect) =
      match s.paging with
      | none => ""
      | some (skip, take) => dialect.paging skip take := by
    rw [pagingPieces]
    cases s.paging <;> simp [spell, Piece.text]
  rw [text, pieces_eq, spell_append, spell_append, spell_append, spell_append, spell_withPieces,
    spell_corePieces, spell_flatMap, spell_clausePieces, hpaging, closingText, String.append_assoc,
    ← map_snd_firstOwned, List.map_map, List.map_map]
  simp only [spell_memberPieces, Function.comp_def, spell_ctePieces, text]

end Spelling

structure Compiles (s : Specification) : Prop where
  valid : s.validate = .ok ()
  thorough : Thorough s
  agree : s.bags.Pairwise Agree

section Success

variable {s : Specification} {dialect : Dialect}

lemma Compiles.query (h : Compiles s) (dialect : Dialect) :
    ∃ query, s.compile dialect .rows = .ok query ∧ query.sql = s.text dialect := by
  cases hd : s.draft with
  | error e => exact absurd ⟨h.thorough, h.agree⟩ (draft_error hd).1
  | ok draft => exact ⟨_, compile_rows_eq_layout.mpr ⟨h.valid, draft, hd, rfl⟩, spelt dialect s⟩

lemma compiles_of_compile {query : Query} (h : s.compile dialect .rows = .ok query) :
    Compiles s ∧ query.sql = s.text dialect := by
  obtain ⟨hv, draft, hd, rfl⟩ := compile_rows_eq_layout.mp h
  obtain ⟨⟨hthorough, hagree⟩, -⟩ := draft_ok hd
  exact ⟨⟨hv, hthorough, hagree⟩, spelt dialect s⟩

lemma compiles_iff :
    (∃ query, s.compile dialect .rows = .ok query) ↔ Compiles s := by
  constructor
  · rintro ⟨query, h⟩
    exact (compiles_of_compile h).1
  · intro h
    obtain ⟨query, hquery, -⟩ := h.query dialect
    exact ⟨query, hquery⟩

end Success

section Parts

variable {s : Specification} {m : UnionMember Specification} {d : DerivedTable Specification}
variable {c : CommonTable Specification}

lemma Valid.tables (h : Valid s) (hc : c ∈ s.tables) :
    Text.isBlank c.name = false ∧ c.query.validate = .ok () := by
  rcases List.mem_append.mp hc with hown | hmember
  · exact h.ctes c hown
  · obtain ⟨m, hm, hcm⟩ := List.mem_flatMap.mp hmember
    exact (validate_ok_iff.mp (h.unions m hm)).ctes c hcm

lemma Compiles.agreements (h : Compiles s) :
    (tableBags (firsts s.tables)).Pairwise Agree ∧ s.sourceBags.Pairwise Agree ∧
      (memberBags s.unions).Pairwise Agree := by
  have hagree := h.agree
  rw [bags_eq] at hagree
  obtain ⟨hown, hmembers, -⟩ := List.pairwise_append.mp hagree
  obtain ⟨htables, hsource, -⟩ := List.pairwise_append.mp hown
  exact ⟨htables.of_cons, hsource, hmembers⟩

lemma Compiles.table (h : Compiles s) (hc : c ∈ firsts s.tables) : Compiles c.query := by
  have htable : c ∈ s.tables := mem_of_mem_eraseDupsBy hc
  refine ⟨((validate_ok_iff.mp h.valid).tables htable).2,
    (thorough_iff.mp h.thorough).2.1 c htable, ?_⟩
  exact (List.pairwise_flatMap.mp h.agreements.1).1 c hc

lemma Compiles.source (h : Compiles s) (hd : d ∈ s.source) : Compiles d.query := by
  refine ⟨((validate_ok_iff.mp h.valid).source d hd).2, (thorough_iff.mp h.thorough).2.2.1 d hd, ?_⟩
  exact (List.pairwise_flatMap.mp h.agreements.2.1).1 d (Option.mem_toList.mpr hd)

end Parts

lemma exists_forall₂ {α β γ : Type} {R : α → β → Prop} {f : α → β → γ} {g : α → γ} {as : List α}
    (h : ∀ a ∈ as, ∃ b, R a b ∧ f a b = g a) :
    ∃ bs, List.Forall₂ R as bs ∧ List.zipWith f as bs = as.map g := by
  induction as with
  | nil => exact ⟨[], .nil, rfl⟩
  | cons a as ih =>
    obtain ⟨⟨b, hb, hf⟩, hrest⟩ := List.forall_mem_cons.mp h
    obtain ⟨bs, hbs, hfs⟩ := ih hrest
    exact ⟨b :: bs, .cons hb hbs, by rw [List.zipWith_cons_cons, List.map_cons, hf, hfs]⟩

end SelectQuery.Specification
