import SelectQuery.Proofs.Specification.Validity
import SelectQuery.Query.Basic

/-! Count and existence queries are the row queries of a specification that keeps the table, the
joins, the filter and the parameters. -/

namespace SelectQuery.Specification

def reduced (s : Specification) (projection : String) : Specification :=
  { table := s.table, projection, joins := s.joins, filter := s.filter, parameters := s.parameters }

variable {s : Specification} {projection : String}

lemma Valid.reduced (h : Valid s) (hp : Text.isBlank projection = false) :
    Valid (s.reduced projection) := by
  have hempty : ("" : String).isEmpty = true ∨ Text.isBlank "" = false := Or.inl rfl
  refine ⟨?_, rfl, nofun, nofun, nofun⟩
  have hclauses := h.clauses
  simp only [clauseTexts, List.forall_mem_cons] at hclauses ⊢
  obtain ⟨-, hjoins, hfilter, -⟩ := hclauses
  exact ⟨Or.inr hp, hjoins, hfilter, hempty, hempty, hempty, nofun⟩

lemma draft_reduced (s : Specification) (projection : String) :
    (s.reduced projection).draft = do
      s.requireTable
      return ⟨[.text ((s.reduced projection).selection ++ s.table ++
        (s.reduced projection).restrictions), .text ""], s.parameters⟩ := rfl

lemma coreText_reduced (s : Specification) (hp : Text.isBlank projection = false) :
    (s.reduced projection).selection ++ s.table ++ (s.reduced projection).restrictions =
      "SELECT " ++ projection ++ " FROM " ++ s.table ++ s.filters := by
  have hselection : (s.reduced projection).selection = "SELECT " ++ projection ++ " FROM " := by
    simp [selection, Specification.reduced, hp]
  have hrestrictions : (s.reduced projection).restrictions = s.filters := by
    have hgrouping : clause " GROUP BY " (s.reduced projection).grouping = "" := rfl
    have hgroupFilter : clause " HAVING " (s.reduced projection).groupFilter = "" := rfl
    rw [restrictions, hgrouping, hgroupFilter, String.append_empty, String.append_empty]
    rfl
  rw [hselection, hrestrictions]

lemma compile_reduced (hv : s.validate = .ok ()) (hp : Text.isBlank projection = false)
    (dialect : Dialect) :
    (s.reduced projection).compile dialect .rows =
      (s.tableRows projection).map fun sql => ⟨sql, s.parameters⟩ := by
  have hreduced : (s.reduced projection).validate = .ok () :=
    validate_ok_iff.mpr ((validate_ok_iff.mp hv).reduced hp)
  rw [compile, hreduced]
  change (s.reduced projection).rowsQuery dialect = _
  rw [rowsQuery, draft_reduced, coreText_reduced s hp, tableRows]
  cases s.requireTable with
  | error e => rfl
  | ok _ =>
    simp only [pure, Except.pure, bind, Except.bind, Except.map, Segment.renderAll,
      Segment.render, String.append_empty]

lemma compile_count (hv : s.validate = .ok ()) (dialect : Dialect) :
    s.compile dialect .count =
      (s.tableRows "COUNT(*)").map fun sql => ⟨sql, s.parameters⟩ := by
  rw [compile, hv]
  change s.countQuery = _
  rw [countQuery]
  cases s.tableRows "COUNT(*)" <;> rfl

lemma compile_existence (hv : s.validate = .ok ()) (dialect : Dialect) :
    s.compile dialect .existence =
      (s.tableRows "1").map fun sql => ⟨dialect.existence sql, s.parameters⟩ := by
  rw [compile, hv]
  change s.existenceQuery dialect = _
  rw [existenceQuery]
  cases s.tableRows "1" <;> rfl

lemma compile_count_eq_reduced (hv : s.validate = .ok ()) (dialect other : Dialect) :
    s.compile dialect .count = (s.reduced "COUNT(*)").compile other .rows := by
  rw [compile_count hv, compile_reduced hv (by decide)]

lemma compile_existence_eq_reduced (hv : s.validate = .ok ()) (dialect : Dialect) :
    s.compile dialect .existence = ((s.reduced "1").compile dialect .rows).map
      fun query => ⟨dialect.existence query.sql, query.parameters⟩ := by
  rw [compile_existence hv, compile_reduced hv (by decide)]
  cases s.tableRows "1" <;> rfl

theorem compile_eq_reduced (hv : s.validate = .ok ()) (dialect : Dialect) :
    s.compile dialect .count = (s.reduced "COUNT(*)").compile dialect .rows ∧
    s.compile dialect .existence = ((s.reduced "1").compile dialect .rows).map
      (fun query => ⟨dialect.existence query.sql, query.parameters⟩) ∧
    (∀ other : Dialect, s.compile other .count = s.compile dialect .count) ∧
    ∀ t : Specification, t.validate = .ok () → t.table = s.table → t.joins = s.joins →
      t.filter = s.filter → t.parameters = s.parameters →
      t.compile dialect .count = s.compile dialect .count ∧
        t.compile dialect .existence = s.compile dialect .existence := by
  refine ⟨compile_count_eq_reduced hv dialect dialect, compile_existence_eq_reduced hv dialect,
    ?_, ?_⟩
  · intro other
    rw [compile_count_eq_reduced hv other dialect, compile_count_eq_reduced hv dialect dialect]
  · intro t ht htable hjoins hfilter hparameters
    have hsame (projection : String) : t.reduced projection = s.reduced projection := by
      rw [reduced, reduced, htable, hjoins, hfilter, hparameters]
    rw [compile_count_eq_reduced ht dialect dialect, compile_count_eq_reduced hv dialect dialect,
      compile_existence_eq_reduced ht, compile_existence_eq_reduced hv, hsame, hsame]
    exact ⟨rfl, rfl⟩

/-- A grouped query that is joined without a space in front, over a source and a common table that
do not compile. -/
def groupedOrders : Specification :=
  { table := "orders o", joins := "JOIN lines l ON l.id = o.id", filter := "o.total > @Floor"
    grouping := "o.name", skip := some 0, take := some 5
    parameters := NameMap.empty.insert "Floor" (.int 5)
    source := some ⟨{}, "nothing"⟩, ctes := [⟨"nobody", {}⟩] }

theorem compile_eq_reduced_groupedOrders :
    groupedOrders.validate = .ok () ∧
      groupedOrders.compile .mySql .count =
        (groupedOrders.reduced "COUNT(*)").compile .mySql .rows ∧
      (groupedOrders.compile .mySql .count).isOk = true ∧
      (groupedOrders.compile .mySql .rows).isOk = false := by
  have hv : groupedOrders.validate = .ok () := by rfl
  exact ⟨hv, (compile_eq_reduced hv .mySql).1, by decide +kernel, by decide +kernel⟩

end SelectQuery.Specification
