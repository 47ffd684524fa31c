import SelectQuery.Proofs.Query.Text

/-! A union is written as its first query and its members would be, one behind the other, and then
ordered and paged as a whole. -/

namespace SelectQuery.Specification

/-- The query in front of its union, with the common tables of all members. -/
def front (s : Specification) : Specification :=
  { s with ctes := s.tables, unions := [], ordering := "", skip := none, take := none }

/-- What is written of a query that is a member of a union. -/
def alone (s : Specification) : Specification :=
  { s with ctes := [], unions := [], ordering := "", skip := none, take := none }

variable {s : Specification} {m : UnionMember Specification} {dialect : Dialect}

lemma tables_front (s : Specification) : s.front.tables = s.tables := List.append_nil _

lemma Valid.unordered (h : Valid s) :
    ∀ text ∈ [s.projection, s.joins, s.filter, s.grouping, s.groupFilter, ""],
      text.isEmpty = true ∨ Text.isBlank text = false := by
  have hclauses := h.clauses
  simp only [clauseTexts, List.forall_mem_cons] at hclauses ⊢
  obtain ⟨hprojection, hjoins, hfilter, hgrouping, hgroupFilter, -⟩ := hclauses
  exact ⟨hprojection, hjoins, hfilter, hgrouping, hgroupFilter, Or.inl rfl, nofun⟩

lemma Compiles.front (h : Compiles s) : Compiles s.front := by
  have hv := validate_ok_iff.mp h.valid
  obtain ⟨hproper, htables, hsource, -⟩ := thorough_iff.mp h.thorough
  constructor
  · exact validate_ok_iff.mpr ⟨hv.unordered, rfl, nofun, hv.source, fun c hc => hv.tables hc⟩
  · refine thorough_iff.mpr ⟨⟨hproper.table, nofun, ?_⟩, ?_, hsource, nofun⟩
    · rw [tables_front]
      exact hproper.tables
    · rw [tables_front]
      exact htables
  · have hagree := h.agree
    rw [bags_eq] at hagree ⊢
    rw [tables_front]
    have hown := (List.pairwise_append.mp hagree).1
    simpa [memberBags, Specification.front, sourceBags] using hown

lemma Compiles.alone (h : Compiles s) (hm : m ∈ s.unions) : Compiles m.query.alone := by
  have hv := validate_ok_iff.mp ((validate_ok_iff.mp h.valid).unions m hm)
  obtain ⟨hproper, -, -, hsources⟩ := thorough_iff.mp h.thorough
  constructor
  · exact validate_ok_iff.mpr ⟨hv.unordered, rfl, nofun, hv.source, nofun⟩
  · exact thorough_iff.mpr ⟨⟨hproper.members m hm, nofun, .nil⟩, nofun, hsources m hm, nofun⟩
  · have hmember := (List.pairwise_flatMap.mp h.agreements.2.2).1 m hm
    rw [bags_eq]
    simpa [memberBags, tableBags, Specification.alone, tables, firsts, sourceBags] using hmember

lemma closingText_plain (h : s.ordering = "") (hskip : s.skip = none) :
    s.closingText dialect = "" := by
  simp [closingText, clause, h, hskip, Text.isBlank_empty, paging]

lemma text_front (dialect : Dialect) (s : Specification) :
    s.front.text dialect =
      withText ((firsts s.tables).map fun c => definitionText c.name (c.query.text dialect)) ++
        s.coreText (s.origin dialect) := by
  have hcore : s.front.coreText (s.front.origin dialect) = s.coreText (s.origin dialect) := rfl
  rw [text_eq, tables_front, hcore, closingText_plain rfl rfl]
  simp [Specification.front]

lemma text_alone (dialect : Dialect) (s : Specification) :
    s.alone.text dialect = s.coreText (s.origin dialect) := by
  have hcore : s.alone.coreText (s.alone.origin dialect) = s.coreText (s.origin dialect) := rfl
  rw [text_eq, hcore, closingText_plain rfl rfl]
  simp [Specification.alone, tables, firsts, withText]

theorem compile_rows_union {query : Query} (h : s.compile dialect .rows = .ok query) :
    ∃ first members, s.front.compile dialect .rows = .ok first ∧
      List.Forall₂ (fun m member => m.query.alone.compile dialect .rows = .ok member)
        s.unions members ∧
      query.sql = first.sql ++
        String.join (List.zipWith (fun m member => memberText m member.sql) s.unions members) ++
        s.closingText dialect := by
  obtain ⟨hs, hquery⟩ := compiles_of_compile h
  obtain ⟨first, hfirst, hfront⟩ := hs.front.query dialect
  obtain ⟨members, hmembers, htexts⟩ : ∃ members,
      List.Forall₂ (fun m member => m.query.alone.compile dialect .rows = .ok member)
        s.unions members ∧
      List.zipWith (fun m member => memberText m member.sql) s.unions members =
        s.unions.map fun m => memberText m (m.query.coreText (m.query.origin dialect)) := by
    refine exists_forall₂ fun m hm => ?_
    obtain ⟨member, hmember, halone⟩ := (hs.alone hm).query dialect
    exact ⟨member, hmember, by rw [halone, text_alone]⟩
  refine ⟨first, members, hfirst, hmembers, ?_⟩
  rw [hquery, text_eq, htexts, hfront, text_front]

def pagedOrders : Specification := { namedOrders with skip := some 20, take := some 10 }

theorem compile_rows_union_pagedOrders :
    ∃ query first member, pagedOrders.compile .mySql .rows = .ok query ∧
      pagedOrders.front.compile .mySql .rows = .ok first ∧
      ({ table := "old", source := some ⟨largeOrders, "o"⟩ } : Specification).compile .mySql .rows =
        .ok member ∧
      query.sql = first.sql ++ " UNION ALL " ++ member.sql ++
        " ORDER BY name -- @Nobody\n LIMIT 20, 10" := by
  obtain ⟨query, hq⟩ : ∃ query, pagedOrders.compile .mySql .rows = .ok query :=
    exists_compile_of_isOk (by decide +kernel)
  obtain ⟨first, members, hfirst, hmembers, hsql⟩ := compile_rows_union hq
  obtain ⟨member, rest, hmember, hrest, rfl⟩ := List.forall₂_cons_left_iff.mp hmembers
  cases hrest
  have hclosing : pagedOrders.closingText .mySql = " ORDER BY name -- @Nobody\n LIMIT 20, 10" := by
    decide +kernel
  refine ⟨query, first, member, hq, hfirst, hmember, ?_⟩
  rw [hsql, hclosing]
  simp [pagedOrders, namedOrders, memberText, String.append_assoc]

end SelectQuery.Specification
