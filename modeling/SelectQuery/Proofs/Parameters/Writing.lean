import SelectQuery.Proofs.Parameters.Alike

/-! Values written one after the other: of those under one name the last stays. Members of an object
are written in the order of their names, so that of several names with one normal form the greatest
decides. -/

namespace SelectQuery

namespace Entries

variable {α : Type} {before after : List (String × α)} {entry : String × α}

lemma filter_lt_of_ordered (h : Ordered (before ++ entry :: after)) :
    (before ++ entry :: after).filter (fun e => decide (e.1 < entry.1)) = before := by
  obtain ⟨-, hrest, hbefore⟩ := List.pairwise_append.mp h
  have hall : before.filter (fun e => decide (e.1 < entry.1)) = before :=
    List.filter_eq_self.mpr fun e he => decide_eq_true (hbefore e he entry List.mem_cons_self)
  have hnone : (entry :: after).filter (fun e => decide (e.1 < entry.1)) = [] := by
    refine List.filter_eq_nil_iff.mpr (List.forall_mem_cons.mpr ⟨?_, ?_⟩)
    · exact fun hlt => Std.lt_irrefl (of_decide_eq_true hlt)
    · intro e he hlt
      have hgt : entry.1 < e.1 := (List.pairwise_cons.mp hrest).1 e he
      exact Std.lt_irrefl (Std.lt_trans hgt (of_decide_eq_true hlt))
  rw [List.filter_append, hall, hnone, List.append_nil]

end Entries

namespace Parameters

variable {p r : Parameters} {name : String}

def write (p : Parameters) (entries : List (String × Value)) : Parameters :=
  entries.foldl (fun p entry => p.insert entry.1 entry.2) p

lemma write_cons (p : Parameters) (entry : String × Value) (entries : List (String × Value)) :
    p.write (entry :: entries) = write (p.insert entry.1 entry.2) entries := rfl

section Members

variable {m : String × Json} {members : List (String × Json)}

def entryOf (m : String × Json) : String × Value := (normalName m.1, .ofJson m.2)

def Nameless (m : String × Json) : Prop := Text.isBlank (normalName m.1) = true

instance : DecidablePred Nameless :=
  fun m => inferInstanceAs (Decidable (Text.isBlank (normalName m.1) = true))

lemma add_of_named (h : ¬ Nameless m) :
    p.add m.1 (.ofJson m.2) = .ok (p.write [entryOf m]) :=
  add_ok_iff.mpr ⟨Bool.eq_false_iff.mpr h, rfl⟩

lemma add_of_nameless (h : Nameless m) : p.add m.1 (.ofJson m.2) = .error (.blank "name") := by
  rw [add, requireText, h]
  rfl

lemma addAll_of_named (h : ∀ m ∈ members, ¬ Nameless m) (rest : List (String × Json)) :
    p.addAll (members ++ rest) = addAll (p.write (members.map entryOf)) rest := by
  induction members generalizing p with
  | nil => rfl
  | cons m members ih =>
    obtain ⟨hfirst, hrest⟩ := List.forall_mem_cons.mp h
    rw [List.cons_append, addAll, add_of_named hfirst]
    exact ih hrest

lemma addAll_of_nameless {before after : List (String × Json)} (h : ∀ m ∈ before, ¬ Nameless m)
    (hm : Nameless m) : p.addAll (before ++ m :: after) =
      .error ⟨.blank "name", p.write (before.map entryOf)⟩ := by
  rw [addAll_of_named h, addAll, add_of_nameless hm]

lemma named_or_split (members : List (String × Json)) : (∀ m ∈ members, ¬ Nameless m) ∨
    ∃ before m after, members = before ++ m :: after ∧ (∀ n ∈ before, ¬ Nameless n) ∧
      Nameless m := by
  cases hfind : members.find? fun m => decide (Nameless m) with
  | none =>
    refine Or.inl fun m hm hblank => ?_
    exact List.find?_eq_none.mp hfind m hm (decide_eq_true hblank)
  | some m =>
    obtain ⟨hm, before, after, hsplit, hbefore⟩ := List.find?_eq_some_iff_append.mp hfind
    refine Or.inr ⟨before, m, after, hsplit, fun n hn => ?_, of_decide_eq_true hm⟩
    simpa using hbefore n hn

lemma addAll_eq_ok :
    p.addAll members = .ok r ↔
      (∀ m ∈ members, ¬ Nameless m) ∧ r = p.write (members.map entryOf) := by
  rcases named_or_split members with hnamed | ⟨before, m, after, rfl, hbefore, hm⟩
  · have hall := addAll_of_named (p := p) hnamed []
    rw [List.append_nil] at hall
    rw [hall, addAll, Except.ok.injEq, eq_comm]
    exact (and_iff_right hnamed).symm
  · rw [addAll_of_nameless hbefore hm]
    have hmem : m ∈ before ++ m :: after := List.mem_append_right _ List.mem_cons_self
    constructor
    · intro h
      cases h
    · exact fun h => absurd hm (h.1 m hmem)

lemma addAll_eq_error {stopped : Stopped} (h : p.addAll members = .error stopped) :
    ∃ before m after, members = before ++ m :: after ∧ (∀ n ∈ before, ¬ Nameless n) ∧
      Nameless m ∧ stopped = ⟨.blank "name", p.write (before.map entryOf)⟩ := by
  rcases named_or_split members with hnamed | ⟨before, m, after, rfl, hbefore, hm⟩
  · rw [addAll_eq_ok.mpr ⟨hnamed, rfl⟩] at h
    cases h
  · rw [addAll_of_nameless hbefore hm] at h
    cases h
    exact ⟨before, m, after, rfl, hbefore, hm, rfl⟩

/-- Under each name the value of the greatest member whose normal form it is, and what was there if
there is none. -/
def Updated (p : Parameters) (members : List (String × Json)) (r : Parameters) : Prop :=
  ∀ name,
    (∃ m ∈ members, normalName m.1 = name ∧
      (∀ n ∈ members, normalName n.1 = name → n.1 ≤ m.1) ∧ r.get? name = some (.ofJson m.2)) ∨
    ((∀ m ∈ members, normalName m.1 ≠ name) ∧ r.get? name = p.get? name)

lemma updated_write (h : Entries.Ordered members) :
    Updated p members (p.write (members.map entryOf)) := by
  intro name
  induction members generalizing p with
  | nil => exact Or.inr ⟨nofun, rfl⟩
  | cons m members ih =>
    obtain ⟨hlater, hrest⟩ := List.pairwise_cons.mp h
    rw [List.map_cons, write_cons]
    rcases ih hrest with ⟨n, hn, hname, hgreatest, hget⟩ | ⟨hnone, hget⟩
    · refine Or.inl ⟨n, List.mem_cons_of_mem _ hn, hname, ?_, hget⟩
      exact List.forall_mem_cons.mpr ⟨fun _ => Std.le_of_lt (hlater n hn), hgreatest⟩
    · rw [NameMap.get?_insert] at hget
      by_cases hm : name = normalName m.1
      · refine Or.inl ⟨m, List.mem_cons_self, hm.symm, ?_, hget.trans (if_pos hm)⟩
        refine List.forall_mem_cons.mpr ⟨fun _ => Std.le_refl _, fun n hn hname => ?_⟩
        exact absurd hname (hnone n hn)
      · exact Or.inr ⟨List.forall_mem_cons.mpr ⟨Ne.symm hm, hnone⟩, hget.trans (if_neg hm)⟩

lemma mergeObject_eq_error {stopped : Stopped}
    (h : p.mergeObject (.object members) = .error stopped) : ∃ m ∈ Entries.ofList members,
      Nameless m ∧ (∀ n ∈ Entries.ofList members, n.1 < m.1 → ¬ Nameless n) ∧
      stopped.error = .blank "name" ∧
      Updated p ((Entries.ofList members).filter fun n => decide (n.1 < m.1))
        stopped.parameters := by
  have hordered := Entries.ordered_ofList members
  obtain ⟨before, m, after, hsplit, hbefore, hm, rfl⟩ := addAll_eq_error h
  rw [hsplit] at hordered ⊢
  have hlower := Entries.filter_lt_of_ordered hordered
  refine ⟨m, List.mem_append_right _ List.mem_cons_self, hm, ?_, rfl, ?_⟩
  · intro n hn hlt
    refine hbefore n ?_
    rw [← hlower]
    exact List.mem_filter.mpr ⟨hn, decide_eq_true hlt⟩
  · rw [hlower]
    exact updated_write (List.pairwise_append.mp hordered).1

end Members

theorem outcomes_of_mergeObject (p : Parameters) :
    (∀ members, (∃ r, p.mergeObject (.object members) = .ok r) ↔
      ∀ m ∈ Entries.ofList members, ¬ Nameless m) ∧
    (∀ members r, p.mergeObject (.object members) = .ok r →
      Updated p (Entries.ofList members) r) ∧
    (∀ members stopped, p.mergeObject (.object members) = .error stopped →
      ∃ m ∈ Entries.ofList members,
        Nameless m ∧ (∀ n ∈ Entries.ofList members, n.1 < m.1 → ¬ Nameless n) ∧
        stopped.error = .blank "name" ∧
        Updated p ((Entries.ofList members).filter fun n => decide (n.1 < m.1))
          stopped.parameters) ∧
    p.mergeObject .null = .ok p ∧
    ∀ j : Json, j.isNull = false → j.asObject? = none → p.mergeObject j =
      .error ⟨.notNamedValues ("expected a struct or map of named values, got " ++ j.kind), p⟩ := by
  refine ⟨?_, ?_, fun _ _ => mergeObject_eq_error, rfl, ?_⟩
  · intro members
    constructor
    · rintro ⟨r, hr⟩
      exact (addAll_eq_ok.mp hr).1
    · exact fun h => ⟨_, addAll_eq_ok.mpr ⟨h, rfl⟩⟩
  · intro members r hr
    obtain ⟨-, rfl⟩ := addAll_eq_ok.mp hr
    exact updated_write (Entries.ordered_ofList members)
  · intro j hnull hobject
    cases j with
    | null => cases hnull
    | object members => cases hobject
    | bool b | int i | float x | string s | array items | void => rfl

example : mergeObject .empty (.object [("x", .bool true), (" x", .null), ("@x", .string "s")]) =
    .ok (NameMap.empty.insert "x" (.bool true)) := rfl

def spacedNames : List (String × Json) :=
  [("b", .bool true), ("@ ", .null), ("@a", .string "t"), (" a", .string "s")]

theorem outcomes_of_mergeObject_spacedNames :
    ∃ stopped, mergeObject .empty (.object spacedNames) = .error stopped ∧
      stopped.error = .blank "name" ∧ stopped.parameters.get? "a" = some (.text "s") ∧
      stopped.parameters.get? "b" = none := by
  obtain ⟨stopped, hs⟩ : ∃ stopped, mergeObject .empty (.object spacedNames) = .error stopped :=
    ⟨_, rfl⟩
  obtain ⟨-, -, hstops, -, -⟩ := outcomes_of_mergeObject .empty
  obtain ⟨m, hm, hnameless, -, herror, hupdated⟩ := hstops spacedNames stopped hs
  obtain rfl : m = ("@ ", .null) := by
    have hsorted : Entries.ofList spacedNames =
      [(" a", .string "s"), ("@ ", .null), ("@a", .string "t"), ("b", .bool true)] := rfl
    rw [hsorted] at hm
    simp only [List.mem_cons, List.not_mem_nil, or_false] at hm
    rcases hm with rfl | rfl | rfl | rfl
    · exact absurd hnameless (by decide +kernel)
    · rfl
    · exact absurd hnameless (by decide +kernel)
    · exact absurd hnameless (by decide +kernel)
  have hbefore : (Entries.ofList spacedNames).filter (fun n => decide (n.1 < "@ ")) =
    [(" a", .string "s")] := rfl
  rw [hbefore] at hupdated
  have hnormal : normalName " a" = "a" := by decide +kernel
  refine ⟨stopped, hs, herror, ?_, ?_⟩
  · rcases hupdated "a" with ⟨n, hn, -, -, hget⟩ | ⟨hnone, -⟩
    · rw [List.mem_singleton.mp hn] at hget
      exact hget
    · exact absurd hnormal (hnone (" a", .string "s") List.mem_cons_self)
  · rcases hupdated "b" with ⟨n, hn, hname, -, -⟩ | ⟨-, hget⟩
    · rw [List.mem_singleton.mp hn] at hname
      dsimp only at hname
      rw [hnormal] at hname
      exact absurd hname (by decide)
    · exact hget

end Parameters

end SelectQuery
