import SelectQuery.Database.Fetch
import SelectQuery.Proofs.Binding.Endings
import SelectQuery.Proofs.Query.Pieces
import SelectQuery.Proofs.Query.Reduction
import SelectQuery.Proofs.Sql.Plain

/-! Counting rows and testing for rows. Both queries have one text behind their selections, whatever
it leaves open; it binds to one tail in both, and an engine that counts what it finds with that tail
gives answers that agree. -/

namespace SelectQuery

open Binding (bind)

namespace Specification

open Binding (Piece)
open Binding.Piece (spell spell_append)

def fromTable (s : Specification) : String :=
  spell (.words " FROM " :: .fragment s s.table :: s.joinPieces ++
    s.clausePieces " WHERE " s.filter)

variable {s : Specification} {dialect : Dialect}

lemma fromTable_eq (s : Specification) : s.fromTable = " FROM " ++ s.table ++ s.filters := by
  simp only [fromTable, List.cons_append, spell, spell_append, spell_joinPieces,
    spell_clausePieces, Piece.text, filters, String.append_assoc]

lemma tableRows_of_table (htable : Text.isBlank s.table = false) (selected : String) :
    s.tableRows selected = .ok ("SELECT " ++ selected ++ s.fromTable) := by
  have hrequired : s.requireTable = .ok () := by
    rw [requireTable, htable]
    rfl
  rw [tableRows, hrequired, fromTable_eq]
  simp only [Except.bind, Bind.bind, pure, Except.pure, String.append_assoc]

lemma compile_count_of_table (hv : s.validate = .ok ()) (htable : Text.isBlank s.table = false) :
    s.compile dialect .count = .ok ⟨"SELECT COUNT(*)" ++ s.fromTable, s.parameters⟩ := by
  have hselection : "SELECT " ++ "COUNT(*)" = "SELECT COUNT(*)" := rfl
  rw [compile_count hv, tableRows_of_table htable, hselection]
  rfl

lemma compile_existence_of_table (hv : s.validate = .ok ())
    (htable : Text.isBlank s.table = false) :
    s.compile dialect .existence =
      .ok ⟨dialect.existence ("SELECT 1" ++ s.fromTable), s.parameters⟩ := by
  have hselection : "SELECT " ++ "1" = "SELECT 1" := rfl
  rw [compile_existence hv, tableRows_of_table htable, hselection]
  rfl

lemma validate_and_table_of_compile {query : Query}
    (h : s.compile dialect .count = .ok query) :
    s.validate = .ok () ∧ Text.isBlank s.table = false := by
  obtain ⟨_, hv, -⟩ := bind_eq_ok h
  refine ⟨hv, ?_⟩
  cases htable : Text.isBlank s.table with
  | false => rfl
  | true =>
    rw [compile_count hv, tableRows, requireTable, htable] at h
    cases h

lemma bind_counting (s : Specification) (dialect : Dialect) :
    bind ("SELECT COUNT(*)" ++ s.fromTable) s.parameters dialect =
      (bind s.fromTable s.parameters dialect).map fun bound =>
        ⟨"SELECT COUNT(*)" ++ bound.sql, bound.values⟩ := by
  have hfront : Binding.Plain "SELECT COUNT(*)" := rfl
  exact Binding.bind_plain_append hfront s.fromTable s.parameters

lemma bind_testing (s : Specification) (dialect : Dialect) :
    bind (dialect.existence ("SELECT 1" ++ s.fromTable)) s.parameters dialect =
      (bind s.fromTable s.parameters dialect).map fun bound =>
        ⟨dialect.existence ("SELECT 1" ++ bound.sql), bound.values⟩ := by
  have hinner : Binding.Plain "SELECT 1" := rfl
  rw [Binding.bind_existence, Binding.bind_plain_append hinner]
  cases bind s.fromTable s.parameters dialect <;> rfl

end Specification

namespace Engine

open Sql (Cell)

/-- What is relied on of an engine at one tail: it counts the rows that it finds, and its test for
rows tells whether it finds any. -/
structure Tallies (engine : Engine) (tail : String) (cells : List Cell) (k : Nat) : Prop where
  rows : ∃ r, engine ("SELECT 1" ++ tail) cells = .ok r ∧ r.rows.length = k
  count : ∀ r, engine ("SELECT COUNT(*)" ++ tail) cells = .ok r →
    ∃ i : Int64, r.rows = [[.int i]] ∧ i.toInt = k
  existence : ∀ r, engine (dialect.existence ("SELECT 1" ++ tail)) cells = .ok r →
    r.rows = [[.int (if 0 < k then 1 else 0)]]

variable {engine : Engine} {s : Specification}

lemma perform_eq_ok {sql inner : String} {parameters : Parameters} {r : Sql.Relation}
    (around : String → String)
    (hbind : bind sql parameters dialect = (bind inner parameters dialect).map fun bound =>
      ⟨around bound.sql, bound.values⟩)
    (h : engine.perform ⟨sql, parameters⟩ = .ok r) : ∃ tail values,
      bind inner parameters dialect = .ok ⟨tail, values⟩ ∧
        engine (around tail) (values.map Cell.ofValue) = .ok r := by
  obtain ⟨bound, hbound, hrun⟩ := Specification.bind_eq_ok h
  cases hinner : bind inner parameters dialect with
  | error e =>
    rw [hbind, hinner] at hbound
    cases hbound
  | ok tail =>
    rw [hbind, hinner] at hbound
    obtain rfl := Except.ok.inj hbound
    refine ⟨tail.sql, tail.values, rfl, ?_⟩
    cases hfound : engine (around tail.sql) (tail.values.map Cell.ofValue) with
    | error p =>
      rw [hfound] at hrun
      cases hrun
    | ok found =>
      rw [hfound] at hrun
      rw [Except.ok.inj hrun]

lemma count_eq_ok {n : Int64} (h : engine.count s = .ok n) :
    s.validate = .ok () ∧ Text.isBlank s.table = false ∧ ∃ tail values r,
      bind s.fromTable s.parameters dialect = .ok ⟨tail, values⟩ ∧
      engine ("SELECT COUNT(*)" ++ tail) (values.map Cell.ofValue) = .ok r ∧
      scalar r = .ok n := by
  obtain ⟨query, hquery, hrest⟩ := Specification.bind_eq_ok h
  obtain ⟨r, hperform, hscalar⟩ := Specification.bind_eq_ok hrest
  obtain ⟨hv, htable⟩ := Specification.validate_and_table_of_compile hquery
  rw [Specification.compile_count_of_table hv htable] at hquery
  obtain rfl := Except.ok.inj hquery
  obtain ⟨tail, values, htail, hfound⟩ :=
    perform_eq_ok ("SELECT COUNT(*)" ++ ·) (Specification.bind_counting s dialect) hperform
  exact ⟨hv, htable, tail, values, r, htail, hfound, hscalar⟩

lemma holdsAny_eq_ok {b : Bool} (hv : s.validate = .ok ()) (htable : Text.isBlank s.table = false)
    (h : engine.holdsAny s = .ok b) : ∃ tail values r i,
      bind s.fromTable s.parameters dialect = .ok ⟨tail, values⟩ ∧
      engine (dialect.existence ("SELECT 1" ++ tail)) (values.map Cell.ofValue) = .ok r ∧
      scalar r = .ok i ∧ (i == 1) = b := by
  obtain ⟨query, hquery, hrest⟩ := Specification.bind_eq_ok h
  obtain ⟨r, hperform, hrest⟩ := Specification.bind_eq_ok hrest
  obtain ⟨i, hscalar, hb⟩ := Specification.bind_eq_ok hrest
  rw [Specification.compile_existence_of_table hv htable] at hquery
  obtain rfl := Except.ok.inj hquery
  obtain ⟨tail, values, htail, hfound⟩ :=
    perform_eq_ok (fun tail => dialect.existence ("SELECT 1" ++ tail))
      (Specification.bind_testing s dialect) hperform
  exact ⟨tail, values, r, i, htail, hfound, hscalar, Except.ok.inj hb⟩

lemma holdsAny_iff_of_tallies {n : Int64} {b : Bool}
    (htallies : ∀ tail values, bind s.fromTable s.parameters dialect = .ok ⟨tail, values⟩ →
      ∃ k, engine.Tallies tail (values.map Cell.ofValue) k)
    (hcount : engine.count s = .ok n) (hany : engine.holdsAny s = .ok b) :
    b = true ↔ 0 < n := by
  obtain ⟨hv, htable, tail, values, r, htail, hfound, hscalar⟩ := count_eq_ok hcount
  obtain ⟨tail', values', r', i, htail', hfound', hscalar', rfl⟩ := holdsAny_eq_ok hv htable hany
  obtain ⟨rfl, rfl⟩ := BoundQuery.mk.inj (Except.ok.inj (htail.symm.trans htail'))
  obtain ⟨k, hk⟩ := htallies tail values htail
  obtain ⟨m, hrows, hm⟩ := hk.count r hfound
  have hn : scalar r = .ok m := by rw [scalar, hrows]
  have hi : scalar r' = .ok (if 0 < k then 1 else 0) := by rw [scalar, hk.existence r' hfound']
  obtain rfl : m = n := Except.ok.inj (hn.symm.trans hscalar)
  obtain rfl : _ = i := Except.ok.inj (hi.symm.trans hscalar')
  have hpositive : (0 : Int64) < m ↔ 0 < k := by
    rw [Int64.lt_iff_toInt_lt, hm]
    exact Int.natCast_pos
  rw [hpositive]
  by_cases hk : 0 < k <;> simp [hk]

end Engine

namespace Database

open Sql (Cell Condition ColumnName Row Statement Select Projection)

variable {db : Database} {tail sql : String} {cells : List Cell}

lemma engine_of_read {statement : Statement} (h : Statement.read sql cells = .ok statement) :
    db.engine sql cells = (db.run (sql.length + 1) statement).map (·.found) := by
  rw [engine, execute, h]
  rfl

lemma tallies_of_read {name label written title : String} {cell : Cell} {rows : List Row}
    {filter : Option (Condition ColumnName)}
    (hrows : Statement.read ("SELECT 1" ++ tail) cells =
      .ok (.rows (.plain (.constant cell written) name label filter)))
    (hcount : Statement.read ("SELECT COUNT(*)" ++ tail) cells =
      .ok (.rows (.plain (.count title) name label filter)))
    (hexistence : Statement.read (Engine.dialect.existence ("SELECT 1" ++ tail)) cells =
      .ok (.existence (.plain (.constant cell written) name label filter)))
    (hpassing : db.passing name label filter = .ok rows)
    (hlength : rows.length < 0x8000000000000000) :
    db.engine.Tallies tail cells rows.length where
  rows := by
    obtain ⟨columns, hselect⟩ :=
      select_constant hpassing ("SELECT 1" ++ tail).length cell written
    refine ⟨⟨columns, rows.map fun _ => [cell]⟩, ?_, List.length_map _⟩
    rw [engine_of_read hrows, run, hselect]
    rfl
  count := by
    intro r hr
    obtain ⟨columns, hselect⟩ := select_count hpassing ("SELECT COUNT(*)" ++ tail).length title
    rw [engine_of_read hcount, run, hselect] at hr
    obtain rfl := Except.ok.inj hr
    exact ⟨Int64.ofNat rows.length, rfl, Int64.toInt_ofNat_of_lt hlength⟩
  existence := by
    intro r hr
    obtain ⟨columns, hselect⟩ := select_constant hpassing
      (Engine.dialect.existence ("SELECT 1" ++ tail)).length cell written
    rw [engine_of_read hexistence, run, hselect] at hr
    obtain rfl := Except.ok.inj hr
    cases rows <;> rfl

end Database

theorem Specification.count_existence_agree (s : Specification) :
    (s.validate = .ok () → Text.isBlank s.table = false → ∀ dialect : Dialect,
      ∃ counting testing : Query,
        s.compile dialect .count = .ok counting ∧ s.compile dialect .existence = .ok testing ∧
        ((∃ name,
            bind counting.sql counting.parameters dialect = .error (.missingParameter name) ∧
            bind testing.sql testing.parameters dialect = .error (.missingParameter name)) ∨
          ∃ tail values,
            bind s.fromTable s.parameters dialect = .ok ⟨tail, values⟩ ∧
            bind counting.sql counting.parameters dialect =
              .ok ⟨"SELECT COUNT(*)" ++ tail, values⟩ ∧
            bind testing.sql testing.parameters dialect =
              .ok ⟨dialect.existence ("SELECT 1" ++ tail), values⟩)) ∧
    ∀ (engine : Engine) (n : Int64) (b : Bool),
      (∀ tail values, bind s.fromTable s.parameters .sqlite = .ok ⟨tail, values⟩ →
        ∃ k, engine.Tallies tail (values.map Sql.Cell.ofValue) k) →
      engine.count s = .ok n → engine.holdsAny s = .ok b → (b = true ↔ 0 < n) := by
  refine ⟨?_, fun engine n b htallies => Engine.holdsAny_iff_of_tallies htallies⟩
  intro hv htable dialect
  refine ⟨_, _, compile_count_of_table hv htable, compile_existence_of_table hv htable, ?_⟩
  rw [bind_counting, bind_testing]
  cases htail : bind s.fromTable s.parameters dialect with
  | error e =>
    obtain ⟨name, rfl⟩ := Binding.missing_of_bind htail
    exact Or.inl ⟨name, rfl, rfl⟩
  | ok bound => exact Or.inr ⟨bound.sql, bound.values, rfl, rfl, rfl⟩

section DearOrders

open Sql

def orders : Database :=
  Database.addTable {} "orders" [⟨"name", some "TEXT"⟩, ⟨"total", some "INTEGER"⟩]
    [[.text "ash", .int 3], [.text "oak", .int 8], [.text "elm", .int 11]]

/-- The comment has a quote and the name of a parameter without a value. -/
def dearOrders (joins : String) : Specification :=
  { table := "orders", joins, filter := "total > @Min /*'@Max*/"
    parameters := NameMap.empty.insert "Min" (.int 10) }

def joinedOrders : Specification := dearOrders "JOIN kinds ON kind = code"

def labelledOrders : Specification := dearOrders "AS o"

lemma bind_dearOrders {dialect : Dialect} {joins tail sql : String} {values : List Value}
    (h : bind (dearOrders joins).fromTable (dearOrders joins).parameters dialect =
      .ok ⟨tail, values⟩)
    (hsql : Binding.rewriting dialect (Binding.tokens dialect (dearOrders joins).fromTable.toList) =
      sql)
    (hnames : Binding.names (Binding.tokens dialect (dearOrders joins).fromTable.toList) =
      ["Min"]) : tail = sql ∧ values = [.int 10] := by
  obtain ⟨htail, hvalues⟩ := Binding.bound_of_bind h
  rw [hnames] at hvalues
  have hvalues : values.map some = [Value.int 10].map some := by
    rw [hvalues, Binding.boundNames]
    cases dialect.sharesValues <;> rfl
  exact ⟨htail.trans hsql, Binding.eq_of_map_some hvalues⟩

lemma tallies_orders :
    orders.engine.Tallies " FROM orders AS o WHERE total > ? /*'@Max*/" [.int 10] 1 := by
  let text := " FROM orders AS o WHERE total > ? /*'@Max*/"
  let tail : List Sql.Token := [.word "FROM", .word "orders", .word "AS", .word "o",
    .word "WHERE", .word "total", .mark '>', .constant (.int 10) "?"]
  let one : List Sql.Token := [.word "SELECT", .constant (.int 1) "1"]
  have hrows : tokens? ("SELECT 1" ++ text) [.int 10] = some (one ++ tail) := by decide +kernel
  have hcount : tokens? ("SELECT COUNT(*)" ++ text) [.int 10] =
      some ([.word "SELECT", .word "COUNT", .mark '(', .mark '*', .mark ')'] ++ tail) := by
    decide +kernel
  have hexistence : tokens? (Engine.dialect.existence ("SELECT 1" ++ text)) [.int 10] =
      some ([.word "SELECT", .word "EXISTS", .mark '('] ++ one ++ tail ++ [.mark ')']) := by
    decide +kernel
  let filter : Condition ColumnName :=
    .compare .greater (.column ⟨none, "total"⟩) (.constant (.int 10))
  have hpassing : orders.passing "orders" "o" (some filter) =
      .ok [[.text "elm", .int 11]] := rfl
  exact Database.tallies_of_read (Statement.read_of_tokens hrows rfl)
    (Statement.read_of_tokens hcount rfl) (Statement.read_of_tokens hexistence rfl) hpassing
    (by decide)

theorem Specification.count_existence_agree_dearOrders :
    (∃ counting testing : Query,
      joinedOrders.compile .sqlServer .count = .ok counting ∧
      joinedOrders.compile .sqlServer .existence = .ok testing ∧
      bind counting.sql counting.parameters .sqlServer =
        .ok ⟨"SELECT COUNT(*) FROM orders JOIN kinds ON kind = code" ++
          " WHERE total > @p1 /*'@Max*/", [.int 10]⟩ ∧
      bind testing.sql testing.parameters .sqlServer =
        .ok ⟨"SELECT CASE WHEN EXISTS (SELECT 1 FROM orders JOIN kinds ON kind = code" ++
          " WHERE total > @p1 /*'@Max*/) THEN 1 ELSE 0 END", [.int 10]⟩) ∧
    orders.count labelledOrders = .ok 1 ∧
    ∃ b, orders.holdsAny labelledOrders = .ok b ∧ b = true := by
  constructor
  · have hv : joinedOrders.validate = .ok () := rfl
    have htable : Text.isBlank joinedOrders.table = false := by decide
    have hsql : Binding.rewriting .sqlServer
        (Binding.tokens .sqlServer joinedOrders.fromTable.toList) =
          " FROM orders JOIN kinds ON kind = code WHERE total > @p1 /*'@Max*/" := by
      decide +kernel
    have hnames : Binding.names (Binding.tokens .sqlServer joinedOrders.fromTable.toList) =
        ["Min"] := by
      decide +kernel
    obtain ⟨counting, testing, hcounting, htesting, hbound⟩ :=
      (count_existence_agree joinedOrders).1 hv htable .sqlServer
    rcases hbound with ⟨name, hmissing, -⟩ | ⟨tail, values, htail, hcount, hexistence⟩
    · have hok : (joinedOrders.compile .sqlServer .count >>= fun query =>
          bind query.sql query.parameters .sqlServer).isOk = true := by decide +kernel
      rw [hcounting] at hok
      have hok : (bind counting.sql counting.parameters .sqlServer).isOk = true := hok
      rw [hmissing] at hok
      cases hok
    · obtain ⟨rfl, rfl⟩ := bind_dearOrders htail hsql hnames
      exact ⟨counting, testing, hcounting, htesting, hcount, hexistence⟩
  · have hcount : orders.count labelledOrders = .ok 1 := by decide +kernel
    have hany : orders.holdsAny labelledOrders = .ok true := by decide +kernel
    have hsql : Binding.rewriting .sqlite
        (Binding.tokens .sqlite labelledOrders.fromTable.toList) =
          " FROM orders AS o WHERE total > ? /*'@Max*/" := by
      decide +kernel
    have hnames : Binding.names (Binding.tokens .sqlite labelledOrders.fromTable.toList) =
        ["Min"] := by
      decide +kernel
    have htallies : ∀ tail values,
        bind labelledOrders.fromTable labelledOrders.parameters .sqlite = .ok ⟨tail, values⟩ →
          ∃ k, orders.engine.Tallies tail (values.map Cell.ofValue) k := by
      intro tail values h
      obtain ⟨rfl, rfl⟩ := bind_dearOrders h hsql hnames
      exact ⟨1, tallies_orders⟩
    have hagree := (count_existence_agree labelledOrders).2 orders.engine 1 true htallies hcount
    exact ⟨hcount, true, hany, (hagree hany).mpr (by decide)⟩

end DearOrders

end SelectQuery
