import SelectQuery.Proofs.Query.Unions

/-! A query is the same in every dialect but for its paging, at whatever depth that stands. -/

namespace SelectQuery

namespace Segment

def window? : Segment → Option (UInt64 × UInt64)
  | text _ => none
  | paging skip take => some (skip, take)

def windows (segments : List Segment) : List (UInt64 × UInt64) := segments.filterMap window?

lemma windows_append (xs ys : List Segment) : windows (xs ++ ys) = windows xs ++ windows ys :=
  List.filterMap_append

lemma windows_text (text : String) (segments : List Segment) :
    windows (.text text :: segments) = windows segments := rfl

lemma windows_flatMap {α : Type} (as : List α) (f : α → List Segment) :
    windows (as.flatMap f) = as.flatMap fun a => windows (f a) :=
  List.filterMap_flatMap

lemma windows_intercalate (text : String) (parts : List (List Segment)) :
    windows (List.intercalate [.text text] parts) = parts.flatMap windows := by
  induction parts with
  | nil => rfl
  | cons part parts ih =>
    cases parts with
    | nil => simp [List.intercalate]
    | cons other parts =>
      rw [List.intercalate_cons_cons, windows_append, windows_append, ih, windows_text]
      simp [windows]

lemma renderAll_congr {d e : Dialect} {segments : List Segment}
    (h : ∀ window ∈ windows segments, d.paging window.1 window.2 = e.paging window.1 window.2) :
    renderAll d segments = renderAll e segments := by
  induction segments with
  | nil => rfl
  | cons segment segments ih =>
    cases segment with
    | text text => rw [renderAll, renderAll, render, render, ih h]
    | paging skip take =>
      obtain ⟨hfirst, hrest⟩ := List.forall_mem_cons.mp h
      have hfirst : d.paging skip take = e.paging skip take := hfirst
      rw [renderAll, renderAll, render, render, ih hrest, hfirst]

end Segment

namespace Specification

open Segment

/-- The queries that are written with their own ordering and paging, in the order in which these
stand in the text. -/
def written (s : Specification) : List Specification :=
  (firsts s.tables).attach.flatMap (fun ⟨c, _⟩ => written c.query) ++
    s.source.toList.attach.flatMap (fun ⟨d, _⟩ => written d.query) ++
    (s.unions.attach.flatMap fun ⟨m, _⟩ =>
      m.query.source.toList.attach.flatMap fun ⟨d, _⟩ => written d.query) ++ [s]
termination_by sizeOf s
decreasing_by
  · exact sizeOf_table_lt (mem_of_mem_eraseDupsBy ‹_›)
  · exact sizeOf_source_lt (Option.mem_toList.mp ‹_›)
  · exact Nat.lt_trans (sizeOf_source_lt (Option.mem_toList.mp ‹_›)) (sizeOf_member_lt ‹_›)

def sourceWritten (s : Specification) : List Specification :=
  s.source.toList.flatMap (·.query.written)

lemma written_eq (s : Specification) :
    s.written = (firsts s.tables).flatMap (·.query.written) ++ s.sourceWritten ++
      s.unions.flatMap (·.query.sourceWritten) ++ [s] := by
  have hsource (q : Specification) :
      (q.source.toList.attach.flatMap fun d => d.1.query.written) = q.sourceWritten :=
    flatMap_attach _ fun d : DerivedTable Specification => d.query.written
  rw [written, hsource, flatMap_attach _ fun c : CommonTable Specification => c.query.written]
  simp only [hsource]
  rw [flatMap_attach _ fun m : UnionMember Specification => m.query.sourceWritten]

lemma mem_written_iff {s t : Specification} :
    t ∈ s.written ↔ t = s ∨ (∃ c ∈ firsts s.tables, t ∈ c.query.written) ∨
      (∃ d ∈ s.source, t ∈ d.query.written) ∨
      ∃ m ∈ s.unions, ∃ d ∈ m.query.source, t ∈ d.query.written := by
  rw [written_eq, List.mem_append, List.mem_singleton, or_comm]
  simp only [sourceWritten, List.mem_append, List.mem_flatMap, Option.mem_toList, Option.mem_def,
    or_assoc]

section Nesting

variable {s t : Specification}

lemma infix_intercalate {α : Type} {part : List α} {parts : List (List α)} (mark : List α)
    (h : part ∈ parts) : part <:+: List.intercalate mark parts := by
  induction parts with
  | nil => cases h
  | cons first parts ih =>
    cases parts with
    | nil =>
      obtain rfl := List.mem_singleton.mp h
      exact ⟨[], [], by rw [List.intercalate_singleton, List.nil_append, List.append_nil]⟩
    | cons second parts =>
      rw [List.intercalate_cons_cons]
      rcases List.mem_cons.mp h with rfl | h
      · exact (List.prefix_append _ _).isInfix.trans (List.prefix_append _ _).isInfix
      · exact (ih h).trans (List.suffix_append _ _).isInfix

lemma infix_withClause {part : List Segment} {parts : List (List Segment)} (h : part ∈ parts) :
    part <:+: withClause parts := by
  have hpart := infix_intercalate [.text ", "] h
  cases parts with
  | nil => cases h
  | cons first parts =>
    exact hpart.trans (List.infix_append [Segment.text "WITH "] _ [Segment.text " "])

lemma infix_coreLayout {d : DerivedTable Specification} (hd : d ∈ s.source) :
    d.query.layout <:+: s.coreLayout s.sourceLayout := by
  have hlayout : s.sourceLayout = d.query.layout := by
    rw [sourceLayout, hd]
    exact List.append_nil _
  rw [coreLayout, hd, hlayout]
  exact List.infix_append [Segment.text (s.selection ++ "(")] _ _

lemma layout_infix_of_mem_written (h : t ∈ s.written) : t.layout <:+: s.layout := by
  induction s using inductionOnTables generalizing t with
  | step s htables hsource hmembers =>
    rcases mem_written_iff.mp h with rfl | ⟨c, hc, h⟩ | ⟨d, hd, h⟩ | ⟨m, hm, d, hd, h⟩
    · exact List.infix_rfl
    · have hquery : c.query.layout <:+: cteLayout c.query.layout c.name :=
        List.infix_append [Segment.text (c.name ++ " AS (")] _ [Segment.text ")"]
      have hdefinition := infix_withClause
        (List.mem_map_of_mem (f := fun c => cteLayout c.query.layout c.name) hc)
      rw [layout_eq s, List.append_assoc, List.append_assoc]
      exact ((htables c (mem_of_mem_eraseDupsBy hc) h).trans hquery).trans
        (hdefinition.trans (List.prefix_append _ _).isInfix)
    · rw [layout_eq s, List.append_assoc]
      exact ((hsource d hd h).trans (infix_coreLayout hd)).trans (List.infix_append _ _ _)
    · have hmember : m.query.coreLayout m.query.sourceLayout <:+:
          memberLayout m.query.sourceLayout m := (List.suffix_cons _ _).isInfix
      have hall := List.infix_of_mem_flatten
        (List.mem_map_of_mem (f := fun m => memberLayout m.query.sourceLayout m) hm)
      rw [layout_eq s, List.flatMap_def]
      exact (((hmembers m hm d hd h).trans (infix_coreLayout hd)).trans hmember).trans
        (hall.trans (List.infix_append _ _ _))

lemma Compiles.written (hs : Compiles s) (h : t ∈ s.written) : Compiles t := by
  induction s using inductionOnTables generalizing t with
  | step s htables hsource hmembers =>
    rcases mem_written_iff.mp h with rfl | ⟨c, hc, h⟩ | ⟨d, hd, h⟩ | ⟨m, hm, d, hd, h⟩
    · exact hs
    · exact htables c (mem_of_mem_eraseDupsBy hc) (hs.table hc) h
    · exact hsource d hd (hs.source hd) h
    · exact hmembers m hm d hd ((hs.alone hm).source hd) h

end Nesting

def pagings (ts : List Specification) : List (UInt64 × UInt64) := ts.filterMap paging

lemma pagings_append (ts us : List Specification) : pagings (ts ++ us) = pagings ts ++ pagings us :=
  List.filterMap_append

lemma pagings_flatMap {α : Type} (as : List α) (f : α → List Specification) :
    pagings (as.flatMap f) = as.flatMap fun a => pagings (f a) :=
  List.filterMap_flatMap

section Windows

variable {s : Specification}

lemma windows_sourceLayout
    (h : ∀ d ∈ s.source, windows d.query.layout = pagings d.query.written) :
    windows s.sourceLayout = pagings s.sourceWritten := by
  rw [sourceLayout, sourceWritten]
  cases hs : s.source with
  | none => rfl
  | some d => simpa using h d hs

lemma windows_coreLayout
    (h : ∀ d ∈ s.source, windows d.query.layout = pagings d.query.written) :
    windows (s.coreLayout s.sourceLayout) = pagings s.sourceWritten := by
  have hsource := windows_sourceLayout h
  rw [coreLayout]
  cases hs : s.source with
  | none =>
    rw [sourceWritten, hs]
    rfl
  | some d =>
    dsimp only
    rw [List.cons_append, windows_text, windows_append, hsource, windows_text]
    exact List.append_nil _

lemma windows_memberLayouts
    (h : ∀ m ∈ s.unions, ∀ d ∈ m.query.source, windows d.query.layout = pagings d.query.written) :
    windows (s.unions.flatMap fun m => memberLayout m.query.sourceLayout m) =
      pagings (s.unions.flatMap (·.query.sourceWritten)) := by
  rw [windows_flatMap, pagings_flatMap]
  refine List.flatMap_congr fun m hm => ?_
  rw [memberLayout, windows_text, windows_coreLayout (h m hm)]

lemma windows_withClause (parts : List (List Segment)) :
    windows (withClause parts) = parts.flatMap windows := by
  cases parts with
  | nil => rfl
  | cons part parts =>
    rw [withClause, List.cons_append, windows_text, windows_append, windows_intercalate,
      windows_text]
    · exact List.append_nil _
    · exact List.cons_ne_nil part parts

lemma windows_cteLayout (inner : List Segment) (name : String) :
    windows (cteLayout inner name) = windows inner := by
  rw [cteLayout, List.cons_append, windows_text, windows_append, windows_text]
  exact List.append_nil _

lemma windows_pagingText (s : Specification) : windows s.pagingText = pagings [s] := by
  rw [pagingText, pagings]
  cases hs : s.paging <;> simp [hs, windows, Segment.window?]

theorem windows_layout (s : Specification) : windows s.layout = pagings s.written := by
  induction s using inductionOnTables with
  | step s htables hsource hmembers =>
    have hwith : windows
          (withClause ((firsts s.tables).map fun c => cteLayout c.query.layout c.name)) =
        pagings ((firsts s.tables).flatMap (·.query.written)) := by
      rw [windows_withClause, List.flatMap_map, pagings_flatMap]
      refine List.flatMap_congr fun c hc => ?_
      rw [windows_cteLayout, htables c (mem_of_mem_eraseDupsBy hc)]
    rw [layout_eq, written_eq, windows_append, windows_append, windows_append, windows_text,
      windows_pagingText, windows_coreLayout hsource, windows_memberLayouts hmembers, hwith,
      pagings_append, pagings_append, pagings_append]

end Windows

lemma compile_rows_eq (s : Specification) (dialect : Dialect) :
    s.compile dialect .rows = s.validate >>= fun _ => s.draft.map fun draft =>
      ⟨renderAll dialect s.layout, draft.parameters⟩ := by
  rw [compile.eq_def]
  cases s.validate with
  | error e => rfl
  | ok _ =>
    change s.rowsQuery dialect = s.draft.map _
    rw [rowsQuery]
    cases hd : s.draft with
    | error e => rfl
    | ok draft =>
      rw [← laid s draft hd]
      rfl

lemma compile_rows_congr {s : Specification} {d e : Dialect}
    (h : ∀ window ∈ pagings s.written, d.paging window.1 window.2 = e.paging window.1 window.2) :
    s.compile d .rows = s.compile e .rows := by
  rw [← windows_layout] at h
  rw [compile_rows_eq, compile_rows_eq, renderAll_congr h]

theorem compile_dialects (s : Specification) :
    (∀ d e mode, (s.compile d mode).map (·.parameters) = (s.compile e mode).map (·.parameters)) ∧
    windows s.layout = pagings s.written ∧
    (∀ d query, s.compile d .rows = .ok query → query.sql = renderAll d s.layout ∧
      (∀ e, s.compile e .rows = .ok ⟨renderAll e s.layout, query.parameters⟩) ∧
      ∀ t ∈ s.written, ∃ before inner after, t.compile d .rows = .ok inner ∧
        s.layout = before ++ t.layout ++ after ∧
        query.sql = renderAll d before ++ inner.sql ++ renderAll d after) ∧
    ((∀ t ∈ s.written, t.paging = none) → ∀ d e, s.compile d .rows = s.compile e .rows) ∧
    s.compile .postgreSql .rows = s.compile .sqlite .rows ∧
    ∀ d e, s.compile d .count = s.compile e .count := by
  refine ⟨?_, windows_layout s, ?_, ?_, ?_, ?_⟩
  · intro d e mode
    rw [map_parameters_compile, map_parameters_compile]
  · intro d query h
    obtain ⟨hv, draft, hd, rfl⟩ := compile_rows_eq_layout.mp h
    refine ⟨rfl, fun e => compile_rows_eq_layout.mpr ⟨hv, draft, hd, rfl⟩, fun t ht => ?_⟩
    obtain ⟨before, after, hlayout⟩ := layout_infix_of_mem_written ht
    obtain ⟨inner, hinner⟩ := compiles_iff.mpr ((compiles_of_compile h).1.written ht)
    obtain ⟨-, _, -, rfl⟩ := compile_rows_eq_layout.mp hinner
    refine ⟨before, _, after, hinner, hlayout.symm, ?_⟩
    rw [← hlayout, renderAll_append, renderAll_append]
  · intro h d e
    apply compile_rows_congr
    have hnone : pagings s.written = [] := List.filterMap_eq_nil_iff.mpr h
    rw [hnone]
    exact nofun
  · exact compile_rows_congr fun _ _ => rfl
  · intro d e
    rfl

def pagedReport : Specification :=
  { table := "recent", skip := some 20, take := some 10
    unions := [⟨{
      table := "old", skip := some 1, take := some 1
      source := some ⟨{ table := "archive", skip := some 0, take := some 5 }, "o"⟩ }, true⟩]
    ctes := [⟨"recent", { table := "orders", skip := some 0, take := some 100 }⟩] }

theorem compile_dialects_pagedReport :
    pagings pagedReport.written = [(0, 100), (0, 5), (20, 10)] ∧
    (∃ query, pagedReport.compile .mySql .rows = .ok query ∧
      query.sql = "WITH recent AS (SELECT * FROM orders LIMIT 0, 100) SELECT * FROM recent" ++
        " UNION ALL SELECT * FROM (SELECT * FROM archive LIMIT 0, 5) o LIMIT 20, 10" ∧
      pagedReport.compile .sqlite .rows = .ok ⟨
        "WITH recent AS (SELECT * FROM orders LIMIT 100 OFFSET 0) SELECT * FROM recent" ++
        " UNION ALL SELECT * FROM (SELECT * FROM archive LIMIT 5 OFFSET 0) o" ++
        " LIMIT 10 OFFSET 20", query.parameters⟩) ∧
    largeOrders.compile .mySql .rows = largeOrders.compile .sqlServer .rows := by
  obtain ⟨query, hq⟩ : ∃ query, pagedReport.compile .mySql .rows = .ok query :=
    exists_compile_of_isOk (by decide +kernel)
  obtain ⟨-, -, hreport, -, -, -⟩ := compile_dialects pagedReport
  obtain ⟨hsql, hothers, -⟩ := hreport .mySql query hq
  obtain ⟨-, -, -, horders, -, -⟩ := compile_dialects largeOrders
  refine ⟨by decide +kernel, ⟨query, hq, ?_, ?_⟩, horders (by decide +kernel) .mySql .sqlServer⟩
  · rw [hsql]
    decide +kernel
  · rw [hothers .sqlite]
    refine congrArg (fun sql => Except.ok (Query.mk sql query.parameters)) ?_
    decide +kernel

end Specification

end SelectQuery
