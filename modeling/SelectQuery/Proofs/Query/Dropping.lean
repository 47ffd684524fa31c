import SelectQuery.Proofs.Query.Unions

/-! What a member of a union orders, pages or unites itself is dropped, and has no influence. -/

namespace SelectQuery.Specification

def keptMember (m : UnionMember Specification) : UnionMember Specification :=
  { m with query := { m.query with ordering := "", skip := none, take := none, unions := [] } }

def withoutDropped (s : Specification) : Specification :=
  { s with unions := s.unions.map keptMember }

variable {s t : Specification}

lemma tables_withoutDropped (s : Specification) : s.withoutDropped.tables = s.tables := by
  rw [tables, tables, withoutDropped, List.flatMap_map]
  rfl

lemma core_keptMember (m : UnionMember Specification) (p : Parameters) :
    (keptMember m).query.core (keptMember m).query.outline.source p =
      m.query.core m.query.outline.source p := by
  rw [outline_source, outline_source]
  rfl

lemma unionText_kept (p : Parameters) (ms : List (UnionMember Specification)) :
    unionText p ((ms.map keptMember).map fun m => (m, m.query.outline)) =
      unionText p (ms.map fun m => (m, m.query.outline)) := by
  induction ms generalizing p with
  | nil => rfl
  | cons m ms ih =>
    rw [List.map_cons, List.map_cons, List.map_cons, unionText, unionText]
    simp only [core_keptMember, ih]
    rfl

lemma draft_withoutDropped (s : Specification) : s.withoutDropped.draft = s.draft := by
  have hunited : s.withoutDropped.unions = s.unions.map keptMember := rfl
  rw [draft, draft, assemble, assemble, outline_tables, outline_tables, tables_withoutDropped,
    outline_members, outline_members, hunited, outline_source, outline_source]
  simp only [unionText_kept]
  rfl

lemma Valid.kept {q : Specification} (h : Valid q) :
    Valid { q with ordering := "", skip := none, take := none, unions := [] } :=
  ⟨h.unordered, rfl, nofun, h.source, h.ctes⟩

lemma validate_withoutDropped (h : s.validate = .ok ()) : s.withoutDropped.validate = .ok () := by
  have hv := validate_ok_iff.mp h
  refine validate_ok_iff.mpr ⟨hv.clauses, hv.paging, ?_, hv.source, hv.ctes⟩
  rw [withoutDropped, List.forall_mem_map]
  intro m hm
  exact validate_ok_iff.mpr (validate_ok_iff.mp (hv.unions m hm)).kept

lemma compile_withoutDropped (h : s.validate = .ok ()) (dialect : Dialect) (mode : Mode) :
    s.withoutDropped.compile dialect mode = s.compile dialect mode := by
  rw [compile.eq_def, compile.eq_def, validate_withoutDropped h, h]
  cases mode with
  | rows =>
    change s.withoutDropped.rowsQuery dialect = s.rowsQuery dialect
    rw [rowsQuery, rowsQuery, draft_withoutDropped]
  | count => rfl
  | existence => rfl

theorem compile_congr_dropped (hs : s.validate = .ok ()) (ht : t.validate = .ok ())
    (h : s.withoutDropped = t.withoutDropped) (dialect : Dialect) (mode : Mode) :
    s.compile dialect mode = t.compile dialect mode := by
  rw [← compile_withoutDropped hs, h, compile_withoutDropped ht]

def unitedFloors (ordering : String) (skip take : Option UInt64)
    (unions : List (UnionMember Specification)) : Specification :=
  { table := "orders", filter := "total > @Floor"
    parameters := NameMap.empty.insert "Floor" (.int 5)
    unions := [⟨{ table := "large", ordering, skip, take, unions
                  source := some ⟨largeOrders, "o"⟩, ctes := [⟨"large", largeOrders⟩] }, false⟩] }

def otherFloors : Specification :=
  { parameters := NameMap.empty.insert "Floor" (.int 6)
    ctes := [⟨"large", { table := "archive" }⟩] }

theorem compile_congr_dropped_unitedFloors :
    (unitedFloors "total" (some 0) (some 5) [⟨otherFloors, true⟩]).validate = .ok () ∧
      (unitedFloors "" none none []).validate = .ok () ∧
      (unitedFloors "total" (some 0) (some 5) [⟨otherFloors, true⟩]).compile .mySql .rows =
        (unitedFloors "" none none []).compile .mySql .rows ∧
      ((unitedFloors "" none none []).compile .mySql .rows).isOk = true := by
  have hfull : (unitedFloors "total" (some 0) (some 5) [⟨otherFloors, true⟩]).validate = .ok () := by
    rfl
  have hplain : (unitedFloors "" none none []).validate = .ok () := by rfl
  exact ⟨hfull, hplain, compile_congr_dropped hfull hplain rfl .mySql .rows, by decide +kernel⟩

end SelectQuery.Specification
