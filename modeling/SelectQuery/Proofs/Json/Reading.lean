import SelectQuery.Json.Reader
import SelectQuery.Proofs.Json.Scanning

namespace SelectQuery.Json

namespace Reading

variable {limit : Nat}

lemma run_cons {reading next : Reading} {t : Token} (h : step limit reading t = some next)
    (ts : List Token) : run limit reading (t :: ts) = run limit next ts := by
  rw [run, h]
  rfl

lemma run_first (j : Json) (stack : List Frame) (ts : List Token) :
    run limit (.within stack .itemOrClose) (spelled j ++ ts) =
      run limit (.within stack .value) (spelled j ++ ts) := by
  match j with
  | .null | .void | .bool _ | .int _ | .float _ | .string _ => rfl
  | .array [] | .array (_ :: _) | .object [] | .object (_ :: _) => rfl

lemma closed_array {depth : Nat} (h : depth ≤ limit) (items : List Json) :
    closed limit depth (.array items) = .array items.reverse := by
  rw [closed, if_neg (Nat.not_lt.mpr h)]

lemma closed_object {depth : Nat} (h : depth ≤ limit) (members : List (String × Json)) :
    closed limit depth (.object members true none) = .object members.reverse := by
  rw [closed, decide_eq_false (Nat.not_lt.mpr h)]
  rfl

section Steps

variable {stack : List Frame} {items : List Json} {members : List (String × Json)}

lemma step_openArray :
    step limit (.within stack .value) .openArray =
      some (.within (.array [] :: stack) .itemOrClose) := rfl

lemma step_openObject :
    step limit (.within stack .value) .openObject =
      some (.within (.object [] true none :: stack) .nameOrClose) := rfl

lemma step_closeArray (h : stack.length + 1 ≤ limit) {next : Awaited}
    (hnext : next = .itemOrClose ∨ next = .commaOrClose) :
    step limit (.within (.array items :: stack) next) .closeArray =
      some (place (.array items.reverse) stack) := by
  have hclose : close limit (.array items :: stack) =
      some (place (.array items.reverse) stack) := by
    rw [close, closed_array h]
  rcases hnext with rfl | rfl <;> exact hclose

lemma step_closeObject (h : stack.length + 1 ≤ limit) {next : Awaited}
    (hnext : next = .nameOrClose ∨ next = .commaOrClose) :
    step limit (.within (.object members true none :: stack) next) .closeObject =
      some (place (.object members.reverse) stack) := by
  have hclose : close limit (.object members true none :: stack) =
      some (place (.object members.reverse) stack) := by
    rw [close, closed_object h]
  rcases hnext with rfl | rfl <;> exact hclose

lemma run_name {next : Awaited} (h : next = .nameOrClose ∨ next = .name) (name : String)
    (ts : List Token) :
    run limit (.within (.object members true none :: stack) next)
        (.text (some name) :: .colon :: ts) =
      run limit (.within (.object members true (some name) :: stack) .value) ts := by
  rcases h with rfl | rfl <;> rfl

end Steps

-- The stack is that of the arrays and objects around the value: they count for its nesting.
mutual

theorem run_spelled : ∀ (j : Json) {stack : List Frame}, j.nesting + stack.length ≤ limit →
    ∀ ts, run limit (.within stack .value) (spelled j ++ ts) = run limit (place j.plain stack) ts
  | .null, _, _, _ => rfl
  | .void, _, _, _ => rfl
  | .bool _, _, _, _ => rfl
  | .int _, _, _, _ => rfl
  | .float _, _, _, _ => rfl
  | .string _, _, _, _ => rfl
  | .array [], stack, h, ts => by
    rw [nesting, nestingItems] at h
    exact (run_cons step_openArray _).trans
      (run_cons (step_closeArray (by omega) (Or.inl rfl)) ts)
  | .array (j :: js), stack, h, ts => by
    rw [nesting, nestingItems] at h
    have hj : j.nesting + (Frame.array [] :: stack).length ≤ limit := by
      rw [List.length_cons]
      omega
    have hjs : nestingItems js + stack.length + 1 ≤ limit := by omega
    rw [spelled, List.cons_append, List.cons_append, List.append_assoc, run_cons step_openArray,
      run_first, run_spelled j hj, place, run_spelledItems js hjs, plain, plainItems]
    rfl
  | .object [], stack, h, ts => by
    rw [nesting, nestingMembers] at h
    exact (run_cons step_openObject _).trans
      (run_cons (step_closeObject (by omega) (Or.inl rfl)) ts)
  | .object ((name, j) :: ms), stack, h, ts => by
    rw [nesting, nestingMembers] at h
    have hj : j.nesting + (Frame.object [] true (some name) :: stack).length ≤ limit := by
      rw [List.length_cons]
      omega
    have hms : nestingMembers ms + stack.length + 1 ≤ limit := by omega
    rw [spelled]
    simp only [List.cons_append, List.append_assoc]
    rw [run_cons step_openObject, run_name (Or.inl rfl), run_spelled j hj, place,
      run_spelledMembers ms hms, plain, plainMembers]
    rfl

theorem run_spelledItems : ∀ (js : List Json) {stack : List Frame} {items : List Json},
    nestingItems js + stack.length + 1 ≤ limit →
    ∀ ts, run limit (.within (.array items :: stack) .commaOrClose) (spelledItems js ++ ts) =
      run limit (place (.array (items.reverse ++ plainItems js)) stack) ts
  | [], stack, items, h, ts => by
    rw [nestingItems] at h
    rw [spelledItems, List.singleton_append, run_cons (step_closeArray (by omega) (Or.inr rfl)),
      plainItems, List.append_nil]
  | j :: js, stack, items, h, ts => by
    have hcomma : step limit (.within (.array items :: stack) .commaOrClose) .comma =
        some (.within (.array items :: stack) .value) := rfl
    rw [nestingItems] at h
    have hj : j.nesting + (Frame.array items :: stack).length ≤ limit := by
      rw [List.length_cons]
      omega
    have hjs : nestingItems js + stack.length + 1 ≤ limit := by omega
    rw [spelledItems, List.cons_append, List.cons_append, List.append_assoc, run_cons hcomma,
      run_spelled j hj, place, run_spelledItems js hjs, plainItems, List.reverse_cons,
      List.append_assoc, List.singleton_append]

theorem run_spelledMembers : ∀ (ms : List (String × Json)) {stack : List Frame}
    {members : List (String × Json)}, nestingMembers ms + stack.length + 1 ≤ limit →
    ∀ ts, run limit (.within (.object members true none :: stack) .commaOrClose)
        (spelledMembers ms ++ ts) =
      run limit (place (.object (members.reverse ++ plainMembers ms)) stack) ts
  | [], stack, members, h, ts => by
    rw [nestingMembers] at h
    rw [spelledMembers, List.singleton_append,
      run_cons (step_closeObject (by omega) (Or.inr rfl)), plainMembers, List.append_nil]
  | (name, j) :: ms, stack, members, h, ts => by
    have hcomma : step limit (.within (.object members true none :: stack) .commaOrClose) .comma =
        some (.within (.object members true none :: stack) .name) := rfl
    rw [nestingMembers] at h
    have hj : j.nesting + (Frame.object members true (some name) :: stack).length ≤ limit := by
      rw [List.length_cons]
      omega
    have hms : nestingMembers ms + stack.length + 1 ≤ limit := by omega
    rw [spelledMembers]
    simp only [List.cons_append, List.append_assoc]
    rw [run_cons hcomma, run_name (Or.inr rfl), run_spelled j hj, place, run_spelledMembers ms hms,
      plainMembers, List.reverse_cons, List.append_assoc, List.singleton_append]

end

end Reading

theorem parse?_render {j : Json} {limit : Nat} (h : j.nesting ≤ limit)
    (hfloats : ∀ x ∈ j.floats, x.isFinite = true → Restored x) :
    parse? limit j.render = some j.plain := by
  have hlimit : j.nesting + ([] : List Frame).length ≤ limit := h
  have hrun := Reading.run_spelled j hlimit []
  rw [List.append_nil] at hrun
  rw [parse?, render, String.toList_ofList, tokens?_write hfloats, Option.bind_some, ofTokens?,
    hrun]
  rfl

end SelectQuery.Json
