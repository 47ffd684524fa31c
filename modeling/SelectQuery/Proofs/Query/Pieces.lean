import SelectQuery.Proofs.Binding.Pieces
import SelectQuery.Proofs.Query.Layout

namespace SelectQuery.Specification

open Binding
open Binding.Piece (spell spell_append)
open Segment (renderAll)

def ownedTables (s : Specification) : List (Specification × CommonTable Specification) :=
  s.ctes.map (s, ·) ++ s.unions.flatMap fun m => m.query.ctes.map (m.query, ·)

def firstOwned (s : Specification) : List (Specification × CommonTable Specification) :=
  s.ownedTables.eraseDupsBy fun c d => c.2.name == d.2.name

lemma map_snd_ownedTables (s : Specification) : s.ownedTables.map Prod.snd = s.tables := by
  rw [ownedTables, List.map_append, List.map_flatMap, tables]
  simp only [List.map_map, Function.comp_def, List.map_id']

lemma map_eraseDupsBy {α β : Type} (f : α → β) (r : β → β → Bool) :
    ∀ as : List α, (as.eraseDupsBy fun a b => r (f a) (f b)).map f = (as.map f).eraseDupsBy r
  | [] => by simp
  | a :: as => by
    rw [List.eraseDupsBy_cons, List.map_cons, List.map_cons, List.eraseDupsBy_cons,
      map_eraseDupsBy f r, List.filter_map]
    rfl
termination_by as => as.length
decreasing_by
  have := List.length_filter_le (fun b => decide (r (f b) (f a) = false)) as
  simp only [List.length_cons]
  omega

lemma map_snd_firstOwned (s : Specification) : s.firstOwned.map Prod.snd = firsts s.tables := by
  rw [firstOwned, firsts, ← map_snd_ownedTables]
  exact map_eraseDupsBy Prod.snd (fun c d => c.name == d.name) s.ownedTables

lemma mem_tables_of_mem_firstOwned {s o : Specification} {c : CommonTable Specification}
    (h : (o, c) ∈ s.firstOwned) : c ∈ s.tables := by
  rw [← map_snd_ownedTables]
  exact List.mem_map.mpr ⟨(o, c), mem_of_mem_eraseDupsBy h, rfl⟩

section Parts

variable (s : Specification) (inner : List (Piece Specification))

def clausePieces (keyword clause : String) : List (Piece Specification) :=
  if Text.isBlank clause then [] else [.words keyword, .fragment s clause]

def joinPieces : List (Piece Specification) :=
  if Text.isBlank s.joins then []
  else if (s.joins.toList.head?.map Text.isSpace).getD false then [.fragment s s.joins]
  else [.words " ", .fragment s s.joins]

def selectionPieces : List (Piece Specification) :=
  [.words (if s.distinct then "SELECT DISTINCT " else "SELECT "),
    if Text.isBlank s.projection then .words "*" else .fragment s s.projection, .words " FROM "]

def tablePieces : List (Piece Specification) :=
  match s.source with
  | none => [.fragment s s.table]
  | some d => .words "(" :: inner ++ [.words ") ", .fragment s d.label]

def restrictionPieces : List (Piece Specification) :=
  s.joinPieces ++ s.clausePieces " WHERE " s.filter ++ s.clausePieces " GROUP BY " s.grouping ++
    s.clausePieces " HAVING " s.groupFilter

def corePieces : List (Piece Specification) :=
  s.selectionPieces ++ s.tablePieces inner ++ s.restrictionPieces

def ctePieces (name : String) : List (Piece Specification) :=
  .fragment s name :: .words " AS (" :: inner ++ [.words ")"]

def memberPieces (m : UnionMember Specification) : List (Piece Specification) :=
  .words (if m.all then " UNION ALL " else " UNION ") :: m.query.corePieces inner

def pagingPieces (dialect : Dialect) : List (Piece Specification) :=
  match s.paging with
  | none => []
  | some (skip, take) => [.words (dialect.paging skip take)]

end Parts

def withPieces (parts : List (List (Piece Specification))) : List (Piece Specification) :=
  match parts with
  | [] => []
  | parts => .words "WITH " :: List.intercalate [.words ", "] parts ++ [.words " "]

def pieces (dialect : Dialect) (s : Specification) : List (Piece Specification) :=
  withPieces (s.firstOwned.attach.map fun ⟨(o, c), _⟩ =>
      o.ctePieces (pieces dialect c.query) c.name) ++
    s.corePieces (s.source.toList.attach.flatMap fun ⟨d, _⟩ => pieces dialect d.query) ++
    (s.unions.attach.flatMap fun ⟨m, _⟩ => memberPieces
      (m.query.source.toList.attach.flatMap fun ⟨d, _⟩ => pieces dialect d.query) m) ++
    s.clausePieces " ORDER BY " s.ordering ++ s.pagingPieces dialect
termination_by sizeOf s
decreasing_by
  · exact sizeOf_table_lt (mem_tables_of_mem_firstOwned ‹_›)
  · exact sizeOf_source_lt (Option.mem_toList.mp ‹_›)
  · exact Nat.lt_trans (sizeOf_source_lt (Option.mem_toList.mp ‹_›)) (sizeOf_member_lt ‹_›)

def sourcePieces (dialect : Dialect) (s : Specification) : List (Piece Specification) :=
  s.source.toList.flatMap fun d => d.query.pieces dialect

lemma pieces_eq (dialect : Dialect) (s : Specification) :
    s.pieces dialect =
      withPieces (s.firstOwned.map fun oc => oc.1.ctePieces (oc.2.query.pieces dialect) oc.2.name) ++
        s.corePieces (s.sourcePieces dialect) ++
        (s.unions.flatMap fun m => memberPieces (m.query.sourcePieces dialect) m) ++
        s.clausePieces " ORDER BY " s.ordering ++ s.pagingPieces dialect := by
  have hsource (q : Specification) :
      (q.source.toList.attach.flatMap fun d => d.1.query.pieces dialect) =
        q.sourcePieces dialect :=
    flatMap_attach _ fun d : DerivedTable Specification => d.query.pieces dialect
  rw [pieces, hsource]
  simp only [hsource]
  rw [flatMap_attach _ fun m : UnionMember Specification =>
    memberPieces (m.query.sourcePieces dialect) m]
  congr 4
  conv_rhs => rw [← List.attach_map_subtype_val s.firstOwned]
  rw [List.map_map]
  rfl

section Every

variable {P : Binding.Fragment Specification → Prop} {s : Specification} {dialect : Dialect}
variable {inner : List (Piece Specification)}

lemma every_clausePieces {keyword text : String} (h : ∀ text, P ⟨s, text⟩) :
    Every P (s.clausePieces keyword text) := by
  rw [clausePieces]
  split
  · exact every_nil
  · exact every_fragment.mpr ⟨h text, every_nil⟩

lemma every_joinPieces (h : ∀ text, P ⟨s, text⟩) : Every P s.joinPieces := by
  have hjoins : Every P [.fragment s s.joins] := every_fragment.mpr ⟨h s.joins, every_nil⟩
  rw [joinPieces]
  split
  · exact every_nil
  · split
    · exact hjoins
    · exact hjoins

lemma every_selectionPieces (h : ∀ text, P ⟨s, text⟩) : Every P s.selectionPieces := by
  rw [selectionPieces, every_words]
  split
  · exact every_nil
  · exact every_fragment.mpr ⟨h s.projection, every_nil⟩

lemma every_tablePieces (h : ∀ text, P ⟨s, text⟩) (hinner : Every P inner) :
    Every P (s.tablePieces inner) := by
  rw [tablePieces]
  cases s.source with
  | none => exact every_fragment.mpr ⟨h s.table, every_nil⟩
  | some d => exact every_append.mpr ⟨hinner, every_fragment.mpr ⟨h d.label, every_nil⟩⟩

lemma every_corePieces (h : ∀ text, P ⟨s, text⟩) (hinner : Every P inner) :
    Every P (s.corePieces inner) := by
  simp only [corePieces, restrictionPieces, every_append]
  exact ⟨⟨every_selectionPieces h, every_tablePieces h hinner⟩,
    ⟨⟨every_joinPieces h, every_clausePieces h⟩, every_clausePieces h⟩, every_clausePieces h⟩

lemma every_ctePieces {name : String} :
    Every P (s.ctePieces inner name) ↔ P ⟨s, name⟩ ∧ Every P inner := by
  rw [ctePieces, List.cons_append, every_fragment, List.cons_append, every_words, every_append]
  exact and_congr_right fun _ => and_iff_left every_nil

lemma every_withPieces {pss : List (List (Piece Specification))} :
    Every P (withPieces pss) ↔ ∀ ps ∈ pss, Every P ps := by
  cases pss with
  | nil => exact ⟨fun _ => nofun, fun _ => every_nil⟩
  | cons ps pss =>
    rw [withPieces, List.cons_append, every_words, every_append, every_intercalate]
    · exact and_iff_left every_nil
    · exact nofun

lemma every_sourcePieces : Every P (s.sourcePieces dialect) ↔
    ∀ d ∈ s.source, Every P (d.query.pieces dialect) := by
  rw [sourcePieces, every_flatMap]
  simp only [Option.mem_toList, Option.mem_def]

lemma every_sourcePieces_of_core (h : Every P (s.corePieces (s.sourcePieces dialect))) :
    Every P (s.sourcePieces dialect) := by
  cases hs : s.source with
  | none =>
    rw [sourcePieces, hs]
    exact every_nil
  | some d =>
    rw [corePieces, every_append, every_append, tablePieces, hs] at h
    exact (every_append.mp h.1.2).1

lemma every_pieces : Every P (s.pieces dialect) ↔
    (∀ oc ∈ s.firstOwned, P ⟨oc.1, oc.2.name⟩ ∧ Every P (oc.2.query.pieces dialect)) ∧
      Every P (s.corePieces (s.sourcePieces dialect)) ∧
      (∀ m ∈ s.unions, Every P (m.query.corePieces (m.query.sourcePieces dialect))) ∧
      Every P (s.clausePieces " ORDER BY " s.ordering) := by
  have hpaging : Every P (s.pagingPieces dialect) := by
    rw [pagingPieces]
    split <;> exact every_nil
  rw [pieces_eq]
  simp only [every_append, every_withPieces, every_flatMap, List.forall_mem_map, every_ctePieces,
    memberPieces, every_words, hpaging, and_true, and_assoc]

end Every

section Render

variable {s : Specification} {dialect : Dialect}

lemma renderAll_append (xs ys : List Segment) :
    renderAll dialect (xs ++ ys) = renderAll dialect xs ++ renderAll dialect ys := by
  induction xs with
  | nil => rw [List.nil_append, renderAll, String.empty_append]
  | cons x xs ih => rw [List.cons_append, renderAll, renderAll, ih, String.append_assoc]

lemma spell_clausePieces (s : Specification) (keyword text : String) :
    spell (s.clausePieces keyword text) = clause keyword text := by
  rw [clausePieces, clause]
  split <;> simp [spell, Piece.text]

lemma spell_joinPieces (s : Specification) : spell s.joinPieces = joinText s.joins := by
  rw [joinPieces, joinText]
  split
  · rfl
  · split <;> simp [spell, Piece.text]

lemma spell_selectionPieces (s : Specification) : spell s.selectionPieces = s.selection := by
  rw [selectionPieces, selection]
  cases Text.isBlank s.projection <;> simp [spell, Piece.text, String.append_assoc]

lemma spell_restrictionPieces (s : Specification) : spell s.restrictionPieces = s.restrictions := by
  simp only [restrictionPieces, restrictions, filters, spell_append, spell_joinPieces,
    spell_clausePieces]

lemma renderAll_pagingText (s : Specification) :
    renderAll dialect s.pagingText = spell (s.pagingPieces dialect) := by
  rw [pagingText, pagingPieces]
  cases s.paging <;> rfl

lemma renderAll_coreLayout {segments : List Segment} {inner : List (Piece Specification)}
    (h : renderAll dialect segments = spell inner) :
    renderAll dialect (s.coreLayout segments) = spell (s.corePieces inner) := by
  rw [coreLayout, corePieces, tablePieces]
  cases s.source <;>
    simp [spell_append, spell_selectionPieces, spell_restrictionPieces, spell, Piece.text,
      renderAll, renderAll_append, Segment.render, h, String.append_assoc]

lemma renderAll_memberLayout {segments : List Segment} {inner : List (Piece Specification)}
    (h : renderAll dialect segments = spell inner) (m : UnionMember Specification) :
    renderAll dialect (memberLayout segments m) = spell (memberPieces inner m) := by
  simp [memberLayout, memberPieces, spell, Piece.text, renderAll, Segment.render,
    renderAll_coreLayout h]

lemma renderAll_cteLayout {segments : List Segment} {inner : List (Piece Specification)}
    (h : renderAll dialect segments = spell inner) (s : Specification) (name : String) :
    renderAll dialect (cteLayout segments name) = spell (s.ctePieces inner name) := by
  simp [cteLayout, ctePieces, spell_append, spell, Piece.text, renderAll, renderAll_append,
    Segment.render, h, String.append_assoc]

lemma renderAll_sourceLayout
    (h : ∀ d ∈ s.source, renderAll dialect d.query.layout = spell (d.query.pieces dialect)) :
    renderAll dialect s.sourceLayout = spell (s.sourcePieces dialect) := by
  rw [sourceLayout, sourcePieces]
  cases hs : s.source with
  | none => rfl
  | some d => simpa using h d hs

lemma renderAll_flatMap {α : Type} {as : List α} {f : α → List Segment}
    {g : α → List (Piece Specification)} (h : ∀ a ∈ as, renderAll dialect (f a) = spell (g a)) :
    renderAll dialect (as.flatMap f) = spell (as.flatMap g) := by
  induction as with
  | nil => rfl
  | cons a as ih =>
    obtain ⟨ha, has⟩ := List.forall_mem_cons.mp h
    rw [List.flatMap_cons, List.flatMap_cons, renderAll_append, spell_append, ha, ih has]

lemma renderAll_intercalate {parts : List (List Segment)}
    {pss : List (List (Piece Specification))} (h : parts.map (renderAll dialect) = pss.map spell) :
    renderAll dialect (List.intercalate [.text ", "] parts) =
      spell (List.intercalate [.words ", "] pss) := by
  induction parts generalizing pss with
  | nil =>
    cases pss with
    | nil => rfl
    | cons ps pss => cases h
  | cons part parts ih =>
    cases pss with
    | nil => cases h
    | cons ps pss =>
      obtain ⟨hhead, htail⟩ := List.cons.inj h
      cases parts with
      | nil =>
        cases pss with
        | nil => simpa [List.intercalate] using hhead
        | cons _ _ => cases htail
      | cons part' parts =>
        cases pss with
        | nil => cases htail
        | cons ps' pss =>
          rw [List.intercalate_cons_cons, List.intercalate_cons_cons]
          simp [renderAll_append, spell_append, renderAll, spell, Segment.render, Piece.text,
            hhead, ih htail]

lemma renderAll_withClause {parts : List (List Segment)}
    {pss : List (List (Piece Specification))} (h : parts.map (renderAll dialect) = pss.map spell) :
    renderAll dialect (withClause parts) = spell (withPieces pss) := by
  cases parts with
  | nil =>
    cases pss with
    | nil => rfl
    | cons ps pss => cases h
  | cons part parts =>
    cases pss with
    | nil => cases h
    | cons ps pss =>
      simp [withClause, withPieces, renderAll, renderAll_append, spell, spell_append,
        Segment.render, Piece.text, renderAll_intercalate h]

theorem spelt (dialect : Dialect) (s : Specification) :
    renderAll dialect s.layout = spell (s.pieces dialect) := by
  induction s using inductionOnTables with
  | step s htables hsource hmembers =>
    have hwith : ((firsts s.tables).map fun c => cteLayout c.query.layout c.name).map
          (renderAll dialect) =
        (s.firstOwned.map fun oc =>
          oc.1.ctePieces (oc.2.query.pieces dialect) oc.2.name).map spell := by
      rw [← map_snd_firstOwned, List.map_map, List.map_map, List.map_map]
      refine List.map_congr_left fun oc hoc => ?_
      exact renderAll_cteLayout (htables oc.2 (mem_tables_of_mem_firstOwned hoc)) oc.1 oc.2.name
    have hmembers : renderAll dialect (s.unions.flatMap fun m =>
          memberLayout m.query.sourceLayout m) =
        spell (s.unions.flatMap fun m => memberPieces (m.query.sourcePieces dialect) m) :=
      renderAll_flatMap fun m hm =>
        renderAll_memberLayout (renderAll_sourceLayout (hmembers m hm)) m
    rw [layout_eq, pieces_eq]
    simp only [renderAll_append, renderAll, spell_append, renderAll_withClause hwith,
      renderAll_coreLayout (renderAll_sourceLayout hsource), hmembers, Segment.render,
      spell_clausePieces, renderAll_pagingText, String.append_assoc]

end Render

end SelectQuery.Specification
