import SelectQuery.Proofs.Query.Unions

/-! Common tables are defined in front of a query, each name once, and nested queries are written as
they are compiled alone. -/

namespace SelectQuery.Specification

def withoutTables (s : Specification) : Specification :=
  { s with
    ctes := []
    unions := s.unions.map fun m => { m with query := { m.query with ctes := [] } } }

/-- The text from SELECT to HAVING, with the query that stands for the table as it is compiled
alone. -/
inductive Core (dialect : Dialect) (s : Specification) : String → Prop
  | table : s.source = none → Core dialect s (s.coreText s.table)
  | derived {d inner} : s.source = some d → d.query.compile dialect .rows = .ok inner →
      Core dialect s (s.coreText (derivedText d.label inner.sql))

variable {s : Specification} {m : UnionMember Specification} {dialect : Dialect}

lemma tables_withoutTables (s : Specification) : s.withoutTables.tables = [] := by
  simp [tables, withoutTables]

lemma Compiles.withoutTables (h : Compiles s) : Compiles s.withoutTables := by
  have hv := validate_ok_iff.mp h.valid
  obtain ⟨hproper, -, hsource, hmembers⟩ := thorough_iff.mp h.thorough
  constructor
  · refine validate_ok_iff.mpr ⟨hv.clauses, hv.paging, ?_, hv.source, nofun⟩
    rw [Specification.withoutTables, List.forall_mem_map]
    intro m hm
    have hvm := validate_ok_iff.mp (hv.unions m hm)
    exact validate_ok_iff.mpr ⟨hvm.clauses, hvm.paging, hvm.unions, hvm.source, nofun⟩
  · refine thorough_iff.mpr ⟨⟨hproper.table, ?_, ?_⟩, ?_, hsource, ?_⟩
    · rw [Specification.withoutTables, List.forall_mem_map]
      exact hproper.members
    · rw [tables_withoutTables]
      exact .nil
    · rw [tables_withoutTables]
      exact nofun
    · rw [Specification.withoutTables, List.forall_mem_map]
      exact hmembers
  · have hagree := h.agree
    rw [bags_eq] at hagree ⊢
    have hmembers : memberBags s.withoutTables.unions = memberBags s.unions := by
      rw [memberBags, Specification.withoutTables, List.flatMap_map]
      rfl
    rw [tables_withoutTables, hmembers]
    have hfewer : (s.parameters :: s.sourceBags).Sublist
        (s.parameters :: tableBags (firsts s.tables) ++ s.sourceBags) :=
      (List.sublist_append_right _ _).cons_cons _
    exact hagree.sublist (hfewer.append_right _)

lemma text_withoutTables (dialect : Dialect) (s : Specification) :
    s.withoutTables.text dialect =
      s.coreText (s.origin dialect) ++
        String.join (s.unions.map fun m =>
          memberText m (m.query.coreText (m.query.origin dialect))) ++
        s.closingText dialect := by
  have hcore : s.withoutTables.coreText (s.withoutTables.origin dialect) =
      s.coreText (s.origin dialect) := rfl
  have hmembers : (s.withoutTables.unions.map fun m =>
      memberText m (m.query.coreText (m.query.origin dialect))) =
        s.unions.map fun m => memberText m (m.query.coreText (m.query.origin dialect)) := by
    rw [withoutTables, List.map_map]
    rfl
  rw [text_eq, tables_withoutTables, hcore, hmembers]
  simp [firsts, withText, closingText, withoutTables]
  rfl

lemma core_origin (h : ∀ d ∈ s.source, Compiles d.query) (dialect : Dialect) :
    Core dialect s (s.coreText (s.origin dialect)) := by
  rw [origin]
  cases hs : s.source with
  | none => exact .table hs
  | some d =>
    obtain ⟨inner, hinner, htext⟩ := (h d hs).query dialect
    have hcore := Core.derived hs hinner
    rwa [htext] at hcore

theorem compile_rows_tables {query : Query} (h : s.compile dialect .rows = .ok query) :
    ∃ bodies rest core members,
      List.Forall₂ (fun c body => c.query.compile dialect .rows = .ok body)
        (firsts s.tables) bodies ∧
      s.withoutTables.compile dialect .rows = .ok rest ∧
      query.sql = withText (List.zipWith (fun c body => definitionText c.name body.sql)
        (firsts s.tables) bodies) ++ rest.sql ∧
      (firsts s.tables).map (·.name) = (s.tables.map (·.name)).eraseDups ∧
      Core dialect s core ∧ List.Forall₂ (fun m => Core dialect m.query) s.unions members ∧
      rest.sql = core ++ String.join (List.zipWith memberText s.unions members) ++
        s.closingText dialect := by
  obtain ⟨hs, hquery⟩ := compiles_of_compile h
  obtain ⟨rest, hrest, hresttext⟩ := hs.withoutTables.query dialect
  obtain ⟨bodies, hbodies, hdefinitions⟩ : ∃ bodies,
      List.Forall₂ (fun c body => c.query.compile dialect .rows = .ok body)
        (firsts s.tables) bodies ∧
      List.zipWith (fun c body => definitionText c.name body.sql) (firsts s.tables) bodies =
        (firsts s.tables).map fun c => definitionText c.name (c.query.text dialect) := by
    refine exists_forall₂ fun c hc => ?_
    obtain ⟨body, hbody, htext⟩ := (hs.table hc).query dialect
    exact ⟨body, hbody, by rw [htext]⟩
  obtain ⟨members, hmembers, htexts⟩ : ∃ members,
      List.Forall₂ (fun m => Core dialect m.query) s.unions members ∧
      List.zipWith memberText s.unions members =
        s.unions.map fun m => memberText m (m.query.coreText (m.query.origin dialect)) := by
    refine exists_forall₂ fun m hm => ?_
    have hsource : ∀ d ∈ m.query.source, Compiles d.query := fun d hd => (hs.alone hm).source hd
    exact ⟨_, core_origin hsource dialect, rfl⟩
  refine ⟨bodies, rest, s.coreText (s.origin dialect), members, hbodies, hrest, ?_, ?_,
    core_origin (fun d hd => hs.source hd) dialect, hmembers, ?_⟩
  · rw [hquery, text_eq, hdefinitions, hresttext, text_withoutTables]
    simp only [String.append_assoc]
  · exact map_eraseDupsBy (·.name) (· == ·) s.tables
  · rw [hresttext, text_withoutTables, htexts]

def smallOrders : Specification := { table := "orders", filter := "total < 5" }

def oldOrders : Specification :=
  { table := "old", source := some ⟨largeOrders, "o"⟩
    ctes := [⟨"large", largeOrders⟩, ⟨"small", smallOrders⟩] }

def sharedOrders : Specification :=
  { table := "large", unions := [⟨oldOrders, false⟩], ctes := [⟨"large", largeOrders⟩] }

theorem compile_rows_tables_sharedOrders :
    ∃ query large small rest, sharedOrders.compile .postgreSql .rows = .ok query ∧
      largeOrders.compile .postgreSql .rows = .ok large ∧
      smallOrders.compile .postgreSql .rows = .ok small ∧
      sharedOrders.withoutTables.compile .postgreSql .rows = .ok rest ∧
      query.sql = withText [definitionText "large" large.sql, definitionText "small" small.sql] ++
        rest.sql ∧
      rest.sql = sharedOrders.coreText "large" ++ " UNION " ++
        oldOrders.coreText (derivedText "o" large.sql) := by
  obtain ⟨query, hq⟩ : ∃ query, sharedOrders.compile .postgreSql .rows = .ok query :=
    exists_compile_of_isOk (by decide +kernel)
  obtain ⟨bodies, rest, core, members, hbodies, hrest, hsql, -, hcore, hmembers, hrestsql⟩ :=
    compile_rows_tables hq
  have hfirsts : firsts sharedOrders.tables =
      [⟨"large", largeOrders⟩, ⟨"small", smallOrders⟩] := rfl
  rw [hfirsts] at hbodies hsql
  obtain ⟨large, _, hlarge, htail, rfl⟩ := List.forall₂_cons_left_iff.mp hbodies
  obtain ⟨small, _, hsmall, hnil, rfl⟩ := List.forall₂_cons_left_iff.mp htail
  cases hnil
  refine ⟨query, large, small, rest, hq, hlarge, hsmall, hrest, hsql, ?_⟩
  obtain ⟨member, _, hmember, hnil, rfl⟩ := List.forall₂_cons_left_iff.mp hmembers
  cases hnil
  cases hcore with
  | derived h => cases h
  | table =>
    cases hmember with
    | table h => cases h
    | derived hs hinner =>
      cases hs
      cases Except.ok.inj (hlarge.symm.trans hinner)
      rw [hrestsql]
      simp [sharedOrders, memberText, clause, closingText, paging, Text.isBlank_empty,
        String.append_assoc]

end SelectQuery.Specification
