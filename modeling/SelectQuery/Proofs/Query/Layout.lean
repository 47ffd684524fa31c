import SelectQuery.Proofs.Query.Drafting

/-! The text of a draft, with the places of its paging, is said by the specification alone. -/

namespace SelectQuery.Specification

section Parts

variable (s : Specification) (inner : List Segment)

def coreLayout : List Segment :=
  match s.source with
  | none => [.text (s.selection ++ s.table ++ s.restrictions)]
  | some d => .text (s.selection ++ "(") :: inner ++ [.text (") " ++ d.label ++ s.restrictions)]

def memberLayout (m : UnionMember Specification) : List Segment :=
  .text (if m.all then " UNION ALL " else " UNION ") :: m.query.coreLayout inner

def cteLayout (name : String) : List Segment :=
  .text (name ++ " AS (") :: inner ++ [.text ")"]

end Parts

def layout (s : Specification) : List Segment :=
  withClause ((firsts s.tables).attach.map fun ⟨c, _⟩ => cteLayout (layout c.query) c.name) ++
    s.coreLayout (s.source.toList.attach.flatMap fun ⟨d, _⟩ => layout d.query) ++
    (s.unions.attach.flatMap fun ⟨m, _⟩ => memberLayout
      (m.query.source.toList.attach.flatMap fun ⟨d, _⟩ => layout d.query) m) ++
    .text (clause " ORDER BY " s.ordering) :: s.pagingText
termination_by sizeOf s
decreasing_by
  · exact sizeOf_table_lt (mem_of_mem_eraseDupsBy ‹_›)
  · exact sizeOf_source_lt (Option.mem_toList.mp ‹_›)
  · exact Nat.lt_trans (sizeOf_source_lt (Option.mem_toList.mp ‹_›)) (sizeOf_member_lt ‹_›)

def sourceLayout (s : Specification) : List Segment :=
  s.source.toList.flatMap (·.query.layout)

lemma map_attach {α β : Type} (as : List α) (f : α → β) :
    as.attach.map (fun a => f a.1) = as.map f := by
  conv_rhs => rw [← List.attach_map_subtype_val as]
  rw [List.map_map]
  rfl

lemma layout_eq (s : Specification) :
    s.layout =
      withClause ((firsts s.tables).map fun c => cteLayout c.query.layout c.name) ++
        s.coreLayout s.sourceLayout ++
        (s.unions.flatMap fun m => memberLayout m.query.sourceLayout m) ++
        .text (clause " ORDER BY " s.ordering) :: s.pagingText := by
  have hsource (q : Specification) :
      (q.source.toList.attach.flatMap fun d => d.1.query.layout) = q.sourceLayout :=
    flatMap_attach _ fun d : DerivedTable Specification => d.query.layout
  rw [layout, hsource]
  simp only [hsource]
  rw [flatMap_attach _ fun m : UnionMember Specification => memberLayout m.query.sourceLayout m,
    map_attach _ fun c : CommonTable Specification => cteLayout c.query.layout c.name]

def Yields {α : Type} (outcome : Except Error α) (post : α → Prop) : Prop :=
  ∀ a, outcome = .ok a → post a

lemma Yields.bind {α β : Type} {outcome : Except Error α} {next : α → Except Error β}
    {post : α → Prop} {then' : β → Prop} (h : Yields outcome post)
    (hn : ∀ a, post a → Yields (next a) then') : Yields (outcome >>= next) then' := by
  intro b hb
  cases outcome with
  | error e => cases hb
  | ok a => exact hn a (h a rfl) b hb

lemma yields_any {α : Type} (outcome : Except Error α) : Yields outcome fun _ => True :=
  fun _ _ => trivial

lemma yields_ok {α : Type} {a : α} {post : α → Prop} (h : post a) : Yields (.ok a) post := by
  intro b hb
  cases hb
  exact h

section Steps

variable {s : Specification}

def Laid (s : Specification) : Prop := Yields s.draft fun draft => draft.segments = s.layout

lemma laid_core (p : Parameters) (ih : ∀ d ∈ s.source, Laid d.query) :
    Yields (s.core (s.source.map fun d => (d, d.query.draft)) p) fun draft =>
      draft.segments = s.coreLayout s.sourceLayout := by
  cases hs : s.source with
  | none =>
    apply yields_ok
    rw [coreLayout, hs]
  | some d =>
    have hsource : s.sourceLayout = d.query.layout := by simp [sourceLayout, hs]
    rw [Option.map_some, core, coreLayout, hs, hsource]
    refine (ih d hs).bind fun inner hinner => (yields_any _).bind fun _ _ => yields_ok ?_
    rw [hinner]

lemma laid_unionText {ms : List (UnionMember Specification)} (p : Parameters)
    (ih : ∀ m ∈ ms, ∀ d ∈ m.query.source, Laid d.query) :
    Yields (unionText p (ms.map fun m => (m, m.query.outline))) fun draft =>
      draft.segments = ms.flatMap fun m => memberLayout m.query.sourceLayout m := by
  induction ms generalizing p with
  | nil => exact yields_ok rfl
  | cons m ms ihms =>
    obtain ⟨ihm, ihrest⟩ := List.forall_mem_cons.mp ih
    rw [List.map_cons, unionText, outline_source]
    refine (yields_any _).bind fun _ _ => (yields_any _).bind fun merged _ =>
      (laid_core merged ihm).bind fun inner hinner =>
      (ihms inner.parameters ihrest).bind fun others hothers => yields_ok ?_
    rw [hinner, hothers, List.flatMap_cons, memberLayout]

lemma laid_definitions {seen cs : List (CommonTable Specification)} (p : Parameters)
    (ih : ∀ c ∈ cs, Laid c.query) :
    Yields (definitions seen p (cs.map fun c => (c, c.query.draft))) fun r =>
      r.1 = (fresh seen cs).map fun c => cteLayout c.query.layout c.name := by
  induction cs generalizing seen p with
  | nil => exact yields_ok rfl
  | cons c cs ihcs =>
    obtain ⟨ihc, ihrest⟩ := List.forall_mem_cons.mp ih
    rw [List.map_cons, definitions]
    cases hfind : seen.find? (·.name == c.name) with
    | some f =>
      have hname : f.name = c.name := by simpa using List.find?_some hfind
      rw [fresh_cons_of_seen (List.mem_of_find?_eq_some hfind) hname]
      cases hsame : f.query.same c.query with
      | false =>
        simp only [hsame]
        intro r hr
        cases hr
      | true =>
        simp only [hsame, if_true]
        exact ihcs p ihrest
    | none =>
      have hnew : ∀ f ∈ seen, f.name ≠ c.name := by
        intro f hf
        simpa using List.find?_eq_none.mp hfind f hf
      rw [fresh_cons_of_new hnew]
      refine ihc.bind fun inner hinner => (yields_any _).bind fun merged _ =>
        (ihcs merged ihrest).bind fun r hr => yields_ok ?_
      rw [List.map_cons, hinner, hr, cteLayout]

theorem laid (s : Specification) : Laid s := by
  induction s using inductionOnTables with
  | step s htables hsource hmembers =>
    rw [Laid, layout_eq, draft, assemble, outline_tables, outline_source, outline_members]
    refine (yields_any _).bind fun _ _ =>
      (laid_definitions s.parameters htables).bind (Prod.forall.mpr fun parts p hparts =>
      (laid_core p hsource).bind fun inner hinner =>
      (laid_unionText inner.parameters hmembers).bind fun others hothers => yields_ok ?_)
    have hparts : parts = _ := hparts
    rw [hparts, hinner, hothers, fresh_nil]

end Steps

lemma compile_rows_eq_layout {s : Specification} {dialect : Dialect} {query : Query} :
    s.compile dialect .rows = .ok query ↔ s.validate = .ok () ∧ ∃ draft, s.draft = .ok draft ∧
      query = ⟨Segment.renderAll dialect s.layout, draft.parameters⟩ := by
  rw [compile_rows_eq_ok_iff]
  refine and_congr_right fun _ => exists_congr fun draft => and_congr_right fun hd => ?_
  rw [laid s draft hd]

lemma map_parameters_compile (s : Specification) (dialect : Dialect) (mode : Mode) :
    (s.compile dialect mode).map (·.parameters) = s.validate >>= fun _ =>
      match mode with
      | .rows => s.draft.map (·.parameters)
      | .count | .existence => s.requireTable.map fun _ => s.parameters := by
  rw [compile.eq_def]
  cases s.validate with
  | error e => rfl
  | ok _ =>
    cases mode with
    | rows =>
      change (s.rowsQuery dialect).map _ = s.draft.map _
      rw [rowsQuery]
      cases s.draft <;> rfl
    | count =>
      change s.countQuery.map _ = s.requireTable.map _
      rw [countQuery, tableRows]
      cases s.requireTable <;> rfl
    | existence =>
      change (s.existenceQuery dialect).map _ = s.requireTable.map _
      rw [existenceQuery, tableRows]
      cases s.requireTable <;> rfl

end SelectQuery.Specification
