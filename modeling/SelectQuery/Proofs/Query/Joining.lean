import SelectQuery.Proofs.Query.Pieces

/-! Around closed fragments a compiled query has seams wherever its tokens could run on. -/

namespace SelectQuery.Specification

open Binding

section Parts

variable {s : Specification} {dialect : Dialect} {inner : List (Piece Specification)}

lemma continues_clausePieces {keyword text : String}
    (h : Every (Fragment.IsClosed dialect) (s.clausePieces keyword text))
    (hseam : keyword.toList.head?.any isSeam = true) (hplain : Plain keyword) :
    Continues dialect (s.clausePieces keyword text) := by
  rw [clausePieces] at h ⊢
  cases hb : Text.isBlank text with
  | true => exact .nil
  | false =>
    rw [hb] at h
    exact .words hseam hplain (.single (every_fragment.mp h).1)

lemma continues_joinPieces (h : Every (Fragment.IsClosed dialect) s.joinPieces) :
    Continues dialect s.joinPieces := by
  rw [joinPieces] at h ⊢
  cases hb : Text.isBlank s.joins with
  | true => exact .nil
  | false =>
    rw [hb] at h
    cases hspace : (s.joins.toList.head?.map Text.isSpace).getD false with
    | true =>
      rw [hspace] at h
      have hclosed := (every_fragment.mp h).1
      refine ⟨.single hclosed, ?_⟩
      intro c hc
      have hc : s.joins.toList.head? = some c := by simpa [Piece.spell, Piece.text] using hc
      rw [hc] at hspace
      have hc : Text.isSpace c = true := hspace
      simp [isSeam, hc]
    | false =>
      rw [hspace] at h
      have hclosed := (every_fragment.mp (every_words.mp h)).1
      exact .words rfl rfl (.single hclosed)

lemma continues_restrictionPieces (h : Every (Fragment.IsClosed dialect) s.restrictionPieces) :
    Continues dialect s.restrictionPieces := by
  simp only [restrictionPieces, every_append] at h ⊢
  obtain ⟨⟨⟨hjoins, hfilter⟩, hgrouping⟩, hgroupFilter⟩ := h
  have hfilter := continues_clausePieces hfilter rfl rfl
  have hgrouping := continues_clausePieces hgrouping rfl rfl
  have hgroupFilter := continues_clausePieces hgroupFilter rfl rfl
  exact (((continues_joinPieces hjoins).append hfilter).append hgrouping).append hgroupFilter

lemma joined_tablePieces (hinner : Joined dialect inner)
    (h : Every (Fragment.IsClosed dialect) (s.tablePieces inner)) :
    Joined dialect (s.tablePieces inner) := by
  rw [tablePieces] at h ⊢
  cases hs : s.source with
  | none =>
    rw [hs] at h
    exact .single (every_fragment.mp h).1
  | some d =>
    rw [hs] at h
    have hlabel := (every_append.mp h).2
    have hrest : Continues dialect [.words ") ", .fragment s d.label] :=
      .words rfl rfl (.single (every_fragment.mp hlabel).1)
    exact .words rfl (hinner.append hrest)

lemma joined_corePieces (hinner : Joined dialect inner)
    (h : Every (Fragment.IsClosed dialect) (s.corePieces inner)) :
    Joined dialect (s.corePieces inner) := by
  rw [corePieces, List.append_assoc] at h ⊢
  obtain ⟨hselection, h⟩ := every_append.mp h
  obtain ⟨htable, hrestrictions⟩ := every_append.mp h
  have hrest := (joined_tablePieces hinner htable).append (continues_restrictionPieces hrestrictions)
  have hfrom : Continues dialect (.words " FROM " :: (s.tablePieces inner ++ s.restrictionPieces)) :=
    .words rfl rfl hrest
  rw [selectionPieces] at hselection ⊢
  have hselect : Plain (if s.distinct then "SELECT DISTINCT " else "SELECT ") := by
    split <;> rfl
  cases hp : Text.isBlank s.projection with
  | true => exact .words hselect (.words rfl hfrom.joined)
  | false =>
    rw [hp] at hselection
    have hprojection := (every_fragment.mp hselection).1
    exact .words hselect (.fragment hprojection hfrom.seam hfrom.joined)

lemma continues_memberPieces {m : UnionMember Specification}
    (h : Joined dialect (m.query.corePieces inner)) :
    Continues dialect (memberPieces inner m) := by
  rw [memberPieces]
  cases m.all <;> exact .words rfl rfl h

lemma joined_ctePieces {name : String} (hname : Closed dialect name.toList)
    (hinner : Joined dialect inner) : Joined dialect (s.ctePieces inner name) := by
  have hbody : Continues dialect (.words " AS (" :: (inner ++ [.words ")"])) :=
    .words rfl rfl (hinner.append (.words rfl rfl .nil))
  exact .fragment hname hbody.seam hbody.joined

lemma joined_intercalate {pss : List (List (Piece Specification))}
    (h : ∀ ps ∈ pss, Joined dialect ps) :
    Joined dialect (List.intercalate [.words ", "] pss) := by
  induction pss with
  | nil => exact .nil
  | cons ps pss ih =>
    obtain ⟨hps, hrest⟩ := List.forall_mem_cons.mp h
    cases pss with
    | nil => simpa [List.intercalate] using hps
    | cons qs pss =>
      rw [List.intercalate_cons_cons, List.append_assoc]
      exact hps.append (.words rfl rfl (ih hrest))

lemma joined_withPieces_append {pss : List (List (Piece Specification))}
    {qs : List (Piece Specification)} (h : ∀ ps ∈ pss, Joined dialect ps)
    (hq : Joined dialect qs) : Joined dialect (withPieces pss ++ qs) := by
  cases pss with
  | nil => exact hq
  | cons ps pss =>
    -- the space behind the common tables lets anything follow
    have hspace : Continues dialect (.words " " :: qs) := .words rfl rfl hq
    have htables := (joined_intercalate h).append hspace
    have hwith : withPieces (ps :: pss) ++ qs =
        .words "WITH " :: (List.intercalate [.words ", "] (ps :: pss) ++ .words " " :: qs) := by
      simp [withPieces]
    rw [hwith]
    exact .words rfl htables

lemma plain_paging (skip take : UInt64) : Plain (dialect.paging skip take) := by
  cases dialect with
  | sqlServer =>
    simp only [Dialect.paging, plain_append, plain_ofNat, and_true]
    exact ⟨⟨rfl, rfl⟩, rfl⟩
  | postgreSql | sqlite | mySql =>
    simp only [Dialect.paging, plain_append, plain_ofNat, and_true]
    exact ⟨rfl, rfl⟩

lemma continues_pagingPieces (s : Specification) : Continues dialect (s.pagingPieces dialect) := by
  rw [pagingPieces]
  cases s.paging with
  | none => exact .nil
  | some window =>
    obtain ⟨skip, take⟩ := window
    refine .words ?_ (plain_paging skip take) .nil
    cases dialect <;> simp [Dialect.paging, isSeam, Text.isSpace]

lemma joined_sourcePieces
    (ih : ∀ d ∈ s.source, Every (Fragment.IsClosed dialect) (d.query.pieces dialect) →
      Joined dialect (d.query.pieces dialect))
    (h : Every (Fragment.IsClosed dialect) (s.corePieces (s.sourcePieces dialect))) :
    Joined dialect (s.sourcePieces dialect) := by
  have hsource := every_sourcePieces.mp (every_sourcePieces_of_core h)
  cases hs : s.source with
  | none =>
    rw [sourcePieces, hs]
    exact .nil
  | some d =>
    have hpieces : s.sourcePieces dialect = d.query.pieces dialect := by simp [sourcePieces, hs]
    rw [hpieces]
    exact ih d hs (hsource d hs)

lemma joined_pieces (h : Every (Fragment.IsClosed dialect) (s.pieces dialect)) :
    Joined dialect (s.pieces dialect) := by
  induction s using inductionOnTables with
  | step s htables hsource hmembers =>
    obtain ⟨hfirsts, hcore, hcores, hordering⟩ := every_pieces.mp h
    have hctes : ∀ ps ∈ s.firstOwned.map fun oc =>
        oc.1.ctePieces (oc.2.query.pieces dialect) oc.2.name, Joined dialect ps := by
      rw [List.forall_mem_map]
      rintro ⟨o, c⟩ hoc
      obtain ⟨hname, hinner⟩ := hfirsts _ hoc
      exact joined_ctePieces hname (htables c (mem_tables_of_mem_firstOwned hoc) hinner)
    have hwhole : Joined dialect (s.corePieces (s.sourcePieces dialect)) :=
      joined_corePieces (joined_sourcePieces hsource hcore) hcore
    have hunited : Continues dialect
        (s.unions.flatMap fun m => memberPieces (m.query.sourcePieces dialect) m) := by
      refine .flatMap fun m hm => ?_
      have hmember := hcores m hm
      have hinner := joined_sourcePieces (hmembers m hm) hmember
      exact continues_memberPieces (joined_corePieces hinner hmember)
    have hrest := (continues_clausePieces hordering rfl rfl).append (continues_pagingPieces s)
    rw [pieces_eq]
    simp only [List.append_assoc]
    exact joined_withPieces_append hctes (hwhole.append (hunited.append hrest))

end Parts

end SelectQuery.Specification
