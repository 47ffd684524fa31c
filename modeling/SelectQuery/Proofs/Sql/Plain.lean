import Mathlib.Tactic.Lemma
import SelectQuery.Database.Basic

namespace SelectQuery

namespace Sql

lemma Statement.read_of_tokens {sql : String} {cells : List Cell} {ts : List Token}
    {statement : Statement} (htokens : tokens? sql cells = some ts)
    (h : Reader.whole ts = .ok statement) : Statement.read sql cells = .ok statement := by
  rw [Statement.read, htokens]
  change (Reader.whole ts).mapError Reader.problem = _
  rw [h]
  rfl

def Select.plain (projection : Projection) (name label : String)
    (filter : Option (Condition ColumnName)) : Select :=
  ⟨[], ⟨false, projection, .table name label, filter⟩, [], [], none⟩

def Projection.constant (cell : Cell) (written : String) : Projection :=
  .items [.operand (.constant cell) none written]

section Resolution

variable {columns : Columns} {outputs : List Output}

lemma resolveOrLabel_of_unlabelled (h : ∀ o ∈ outputs, o.label = none) :
    resolveOrLabel columns outputs = resolveOrLabel columns [] := by
  funext operand
  cases operand with
  | constant cell => rfl
  | column c =>
    have hnone : (outputs.find? fun o => c.table.isNone && o.label.any (sameName c.name)) =
        none := by
      rw [List.find?_eq_none]
      intro o ho
      simp [h o ho]
    simp only [resolveOrLabel, hnone, List.find?_nil]

lemma resolveFilter_of_unlabelled (h : ∀ o ∈ outputs, o.label = none)
    (filter : Option (Condition ColumnName)) :
    resolveFilter columns outputs filter = resolveFilter columns [] filter := by
  cases filter with
  | none => rfl
  | some c => rw [resolveFilter, resolveFilter, resolveOrLabel_of_unlabelled h]

end Resolution

namespace Part

variable {source : Columns} {rows : List Row} {filter : Option (Condition ColumnName)}

lemma sorted_nil (part : Part) (ordered : Bool) : part.sorted ordered [] = .ok part.relation := by
  have hsorted (rows : List (Row × Row)) : sortBy (fun _ => []) rows = rows :=
    List.mergeSort_of_pairwise (List.pairwise_of_forall fun _ _ => rfl)
  cases ordered with
  | false => rfl
  | true =>
    change Except.ok { part with rows := sortBy (fun _ => []) part.rows }.relation = _
    rw [hsorted]

/-- The output that a constant makes has no label that the filter could mean. -/
lemma ofItems_constant (cell : Cell) (written : String) :
    ofItems source rows false [.operand (.constant cell) none written] filter =
      (resolveFilter source [] filter).map fun passing =>
        ⟨source, [⟨⟨written, none⟩, none, .constant cell⟩],
          (accepted passing rows).map fun row => ([cell], row)⟩ := by
  let made : Output := ⟨⟨written, none⟩, none, .constant cell⟩
  have houtputs : outputsOf source [.operand (.constant cell) none written] = .ok [made] := rfl
  have hunlabelled : ∀ o ∈ [made], o.label = none := by simp [made]
  rw [ofItems, houtputs]
  change (resolveFilter source [made] filter >>= _) = _
  rw [resolveFilter_of_unlabelled hunlabelled]
  cases resolveFilter source [] filter <;> rfl

lemma ofCount_eq (label : String) :
    ofCount source rows label filter =
      (resolveFilter source [] filter).map fun passing =>
        let count := Cell.int (Int64.ofNat (accepted passing rows).length)
        ⟨source, [⟨⟨label, none⟩, some label, .constant count⟩], [([count], [])]⟩ := by
  rw [ofCount]
  cases resolveFilter source [] filter <;> rfl

end Part

lemma selectRelation_plain (projection : Projection) (name label : String)
    (filter : Option (Condition ColumnName)) (first : Except Problem Part) :
    selectRelation first [] (.plain projection name label filter) .whole =
      first.map Part.relation := by
  cases first with
  | error p => rfl
  | ok part =>
    change (part.sorted true [] >>= _) = _
    rw [Part.sorted_nil]
    rfl

end Sql

namespace Database

open Sql

def passing (db : Database) (name label : String) (filter : Option (Condition ColumnName)) :
    Except Problem (List Row) :=
  match db.tables.find? (sameName name ·.1) with
  | none => .error (.noSuchTable name)
  | some (_, r) =>
    (resolveFilter ⟨some label, r.columns⟩ [] filter).map (accepted · r.rows)

lemma select_plain (db : Database) (levels : Nat) (projection : Projection) (name label : String)
    (filter : Option (Condition ColumnName)) :
    db.select (levels + 1) (.plain projection name label filter) =
      match db.tables.find? (sameName name ·.1) with
      | none => .error (.noSuchTable name)
      | some (_, r) =>
        (Part.ofCore ⟨false, projection, .table name label, filter⟩ (some label) r).map
          Part.relation := by
  rw [select, selectOutcome]
  cases hfound : db.tables.find? (sameName name ·.1) with
  | none =>
    simp only [Select.plain, List.map_nil, membersOutcome, coreOutcome, sourceOutcome, Scope.find?,
      List.find?_nil, hfound]
    rfl
  | some found =>
    simp only [Select.plain, List.map_nil, membersOutcome, coreOutcome, sourceOutcome, Scope.find?,
      List.find?_nil, hfound]
    exact selectRelation_plain projection name label filter _

variable {name label : String} {filter : Option (Condition ColumnName)} {rows : List Row}

lemma passing_eq_ok {db : Database} (h : db.passing name label filter = .ok rows) :
    ∃ written r accepting, db.tables.find? (sameName name ·.1) = some (written, r) ∧
      resolveFilter ⟨some label, r.columns⟩ [] filter = .ok accepting ∧
      rows = accepted accepting r.rows := by
  rw [passing] at h
  split at h
  · cases h
  · next written r hfound =>
    cases hfilter : resolveFilter ⟨some label, r.columns⟩ [] filter with
    | error p =>
      rw [hfilter] at h
      cases h
    | ok accepting =>
      rw [hfilter] at h
      exact ⟨written, r, accepting, hfound, hfilter, (Except.ok.inj h).symm⟩

lemma select_constant {db : Database} (h : db.passing name label filter = .ok rows) (levels : Nat)
    (cell : Cell) (written : String) : ∃ columns,
      db.select (levels + 1) (.plain (.constant cell written) name label filter) =
        .ok ⟨columns, rows.map fun _ => [cell]⟩ := by
  obtain ⟨_, r, accepting, hfound, hfilter, rfl⟩ := passing_eq_ok h
  have hrows : ((accepted accepting r.rows).map fun row => ([cell], row)).map Prod.fst =
      (accepted accepting r.rows).map fun _ => [cell] := List.map_map
  simp only [select_plain, hfound, Part.ofCore, Projection.constant, Part.ofItems_constant,
    hfilter, Except.map, Part.relation, hrows]
  exact ⟨_, rfl⟩

lemma select_count {db : Database} (h : db.passing name label filter = .ok rows) (levels : Nat)
    (title : String) : ∃ columns,
      db.select (levels + 1) (.plain (.count title) name label filter) =
        .ok ⟨columns, [[.int (Int64.ofNat rows.length)]]⟩ := by
  obtain ⟨_, r, accepting, hfound, hfilter, rfl⟩ := passing_eq_ok h
  simp only [select_plain, hfound, Part.ofCore, Part.ofCount_eq, hfilter]
  exact ⟨_, rfl⟩

end Database

end SelectQuery
