import Mathlib.Algebra.Ring.Nat
import Mathlib.Data.List.Forall2
import Mathlib.Tactic.Lemma
import SelectQuery.Terminal.Display

/-! The lines of a table are equally long, and each column stands in the same place in all of them.
Widths count bytes, of which a text has at least as many as characters, so that no cell is too long
for its column. -/

namespace SelectQuery.Terminal

namespace Table

def widths (rows : List Record) : List Nat := (columns rows).map (width rows)

def columnStart (widths : List Nat) (i : Nat) : Nat := (widths.take i).sum + 3 * i

/-- A line with one cell in each column. Cells are whole, with spaces behind them up to the width of
the column, and marks stand between columns only. -/
structure Aligned (mark : List Char) (widths : List Nat) (cells : List (List Char))
    (text : List Char) : Prop where
  length : text.length = widths.sum + 3 * (widths.length - 1)
  fits : List.Forall₂ (fun width cell => cell.length ≤ width) widths cells
  placed : ∀ i width cell, widths[i]? = some width → cells[i]? = some cell →
    cell ++ List.replicate (width - cell.length) ' ' ++
        (if i + 1 < widths.length then mark else []) <+:
      text.drop (columnStart widths i)

inductive Shown (record : Record) (column : String) : List Char → Prop
  | missing : record.get? column = none → Shown record column []
  | null : record.get? column = some .null → Shown record column "NULL".toList
  | void : record.get? column = some .void → Shown record column "NULL".toList
  | text {s} : record.get? column = some (.string s) → Shown record column s.toList
  | json {j} : record.get? column = some j → j ≠ .null → j ≠ .void → (∀ s, j ≠ .string s) →
      Shown record column j.write

section Lines

variable {mark : List Char} {widths : List Nat} {cells : List (List Char)}

lemma length_padded {width : Nat} {cs : List Char} (h : cs.length ≤ width) :
    (padded width cs).length = width := by
  rw [padded, List.length_append, List.length_replicate]
  omega

lemma padded_of_length {width : Nat} {cs : List Char} (h : cs.length = width) :
    padded width cs = cs := by
  rw [padded, h, Nat.sub_self, List.replicate_zero, List.append_nil]

lemma columnStart_cons (width : Nat) (widths : List Nat) (i : Nat) :
    columnStart (width :: widths) (i + 1) = width + 3 + columnStart widths i := by
  simp only [columnStart, List.take_succ_cons, List.sum_cons]
  omega

lemma aligned_line (hmark : mark.length = 3)
    (h : List.Forall₂ (fun width cell => cell.length ≤ width) widths cells) :
    Aligned mark widths cells (line mark (List.zipWith padded widths cells)) := by
  induction h with
  | nil => exact ⟨rfl, .nil, nofun⟩
  | @cons width cell widths cells hcell hcells ih =>
    have hlength := length_padded hcell
    cases hcells with
    | nil =>
      have hline : line mark (List.zipWith padded [width] [cell]) = padded width cell :=
        List.intercalate_singleton
      refine ⟨?_, .cons hcell .nil, ?_⟩
      · rw [hline, hlength]
        simp
      · intro i w c hw hc
        rw [hline]
        cases i with
        | zero =>
          cases hw
          cases hc
          have hlast : ¬ 0 + 1 < [width].length := Nat.lt_irrefl 1
          rw [if_neg hlast, List.append_nil]
          exact List.prefix_rfl
        | succ i => cases hw
    | @cons next other widths cells hother hcells =>
      have hline :
          line mark (List.zipWith padded (width :: next :: widths) (cell :: other :: cells)) =
            padded width cell ++ mark ++
              line mark (List.zipWith padded (next :: widths) (other :: cells)) :=
        List.intercalate_cons_cons
      rw [hline]
      refine ⟨?_, .cons hcell ih.fits, ?_⟩
      · rw [List.length_append, List.length_append, hlength, hmark, ih.length]
        simp only [List.sum_cons, List.length_cons]
        omega
      · intro i w c hw hc
        cases i with
        | zero =>
          cases hw
          cases hc
          exact List.prefix_append _ _
        | succ i =>
          have hfront : (padded width cell ++ mark).length = width + 3 := by
            rw [List.length_append, hlength, hmark]
          rw [columnStart_cons, ← List.drop_drop, ← hfront, List.drop_left]
          simpa only [List.length_cons, Nat.add_lt_add_iff_right] using ih.placed i w c hw hc

end Lines

section Widths

variable {rows : List Record} {record : Record}

lemma length_le_byteSize (cs : List Char) : cs.length ≤ byteSize cs := by
  induction cs with
  | nil => exact Nat.zero_le _
  | cons c cs ih =>
    have hsize := c.utf8Size_pos
    rw [byteSize] at ih ⊢
    rw [String.ofList_cons, String.utf8ByteSize_append, String.utf8ByteSize_singleton,
      List.length_cons]
    omega

lemma le_foldl_max {n start : Nat} {ns : List Nat} (h : n ≤ start ∨ n ∈ ns) :
    n ≤ ns.foldl max start := by
  induction ns generalizing start with
  | nil => exact h.resolve_right List.not_mem_nil
  | cons m ns ih =>
    apply ih
    rcases h with h | h
    · exact Or.inl (Nat.le_trans h (Nat.le_max_left start m))
    · rcases List.mem_cons.mp h with rfl | h
      · exact Or.inl (Nat.le_max_right start n)
      · exact Or.inr h

lemma length_column_le (rows : List Record) (column : String) :
    column.toList.length ≤ width rows column := by
  have hsize := length_le_byteSize column.toList
  rw [byteSize, String.ofList_toList] at hsize
  exact Nat.le_trans hsize (le_foldl_max (Or.inl (Nat.le_refl _)))

lemma shown_cell (record : Record) (column : String) :
    Shown record column (cell record column) := by
  cases hj : record.get? column with
  | none =>
    rw [cell, hj]
    exact .missing hj
  | some j =>
    have hcell : cell record column = cellText j := by
      rw [cell, hj]
      rfl
    rw [hcell]
    cases j with
    | null => exact .null hj
    | void => exact .void hj
    | string s => exact .text hj
    | bool b | int i | float x | array items | object members =>
      exact .json hj nofun nofun nofun

lemma length_cell_le (h : record ∈ rows) (column : String) :
    (cell record column).length ≤ width rows column := by
  cases hj : record.get? column with
  | none =>
    rw [cell, hj]
    exact Nat.zero_le _
  | some j =>
    have hmem : cellText j ∈ cells rows column :=
      List.mem_map_of_mem (List.mem_filterMap.mpr ⟨record, h, hj⟩)
    rw [cell, hj]
    exact Nat.le_trans (length_le_byteSize _) (le_foldl_max (Or.inr (List.mem_map_of_mem hmem)))

lemma separator_sized (rows : List Record) : separator (sized rows) =
    line "─┼─".toList ((columns rows).map fun name =>
      padded (width rows name) (List.replicate (width rows name) '─')) := by
  rw [separator, sized, List.map_map]
  refine congrArg (line _) (List.map_congr_left fun name _ => ?_)
  exact (padded_of_length List.length_replicate).symm

lemma aligned_columns {mark : List Char} {names : List String} {size : String → Nat}
    {cell : String → List Char} (hmark : mark.length = 3)
    (h : ∀ name, (cell name).length ≤ size name) :
    Aligned mark (names.map size) (names.map cell)
      (line mark (names.map fun name => padded (size name) (cell name))) := by
  have hfits : List.Forall₂ (fun width cell => cell.length ≤ width) (names.map size)
      (names.map cell) := by
    rw [List.forall₂_map_left_iff, List.forall₂_map_right_iff, List.forall₂_same]
    exact fun name _ => h name
  have hline := aligned_line hmark hfits
  rwa [List.zipWith_map, List.zipWith_self] at hline

end Widths

end Table

open Table

theorem aligned_showRows (screen : Screen) {rows : List Record} (h : rows ≠ []) :
    showRows screen .table rows =
        lines ([screen.display [Style.bold, Style.white] (header (sized rows)),
            screen.display [Style.dimmed] (separator (sized rows))] ++
          rows.map (row (sized rows)) ++
          [[], screen.display [Style.cyan] (Text.natDigits rows.length) ++
            " row(s) returned".toList]) ∧
      Aligned " │ ".toList (widths rows) ((columns rows).map String.toList)
        (header (sized rows)) ∧
      Aligned "─┼─".toList (widths rows) ((widths rows).map (List.replicate · '─'))
        (separator (sized rows)) ∧
      ∀ record ∈ rows, (∀ column, Shown record column (cell record column)) ∧
        Aligned " │ ".toList (widths rows) ((columns rows).map (cell record))
          (row (sized rows) record) := by
  refine ⟨?_, ?_, ?_, ?_⟩
  · rw [showRows, if_neg (mt List.isEmpty_iff.mp h)]
    rfl
  · rw [header, sized, List.map_map]
    exact aligned_columns rfl (length_column_le rows)
  · rw [separator_sized, widths, List.map_map]
    exact aligned_columns rfl fun _ => Nat.le_of_eq List.length_replicate
  · intro record hrecord
    refine ⟨shown_cell record, ?_⟩
    rw [row, sized, List.map_map]
    exact aligned_columns rfl (length_cell_le hrecord)

def roundRow : Record :=
  (NameMap.empty.insert "größe" (.array [.string "ß"])).insert "name" .null

def turtleRow : Record :=
  (NameMap.empty.insert "extra" (.bool true)).insert "name" (.string "żółw")

def accentedRows : List Record := [roundRow, turtleRow]

theorem aligned_showRows_accentedRows :
    showRows ⟨false⟩ .table accentedRows =
        "größe   │ name   \n" ++ "────────┼────────\n" ++ "[\"ß\"]   │ NULL   \n" ++
          "        │ żółw   \n" ++ "\n2 row(s) returned\n" ∧
      Aligned " │ ".toList [7, 7] ["größe".toList, "name".toList] "größe   │ name   ".toList ∧
      Aligned "─┼─".toList [7, 7] ["───────".toList, "───────".toList]
        "────────┼────────".toList ∧
      Aligned " │ ".toList [7, 7] ["[\"ß\"]".toList, "NULL".toList] "[\"ß\"]   │ NULL   ".toList ∧
      Aligned " │ ".toList [7, 7] [[], "żółw".toList] "        │ żółw   ".toList := by
  have hwidths : widths accentedRows = [7, 7] := by decide +kernel
  have hcolumns : columns accentedRows = ["größe", "name"] := by decide +kernel
  have hsome : accentedRows ≠ [] := List.cons_ne_nil roundRow [turtleRow]
  obtain ⟨-, hheader, hseparator, hrows⟩ := aligned_showRows ⟨false⟩ hsome
  have hround := (hrows roundRow List.mem_cons_self).2
  have hturtle := (hrows turtleRow (List.mem_cons_of_mem _ List.mem_cons_self)).2
  have hheaderText : header (sized accentedRows) = "größe   │ name   ".toList := by
    decide +kernel
  have hseparatorText : separator (sized accentedRows) = "────────┼────────".toList := by
    decide +kernel
  have hroundText : row (sized accentedRows) roundRow = "[\"ß\"]   │ NULL   ".toList := by
    decide +kernel
  have hturtleText : row (sized accentedRows) turtleRow = "        │ żółw   ".toList := by
    decide +kernel
  rw [hwidths, hcolumns, hheaderText] at hheader
  rw [hwidths, hseparatorText] at hseparator
  rw [hwidths, hcolumns, hroundText] at hround
  rw [hwidths, hcolumns, hturtleText] at hturtle
  exact ⟨by decide +kernel, hheader, hseparator, hround, hturtle⟩

end SelectQuery.Terminal
