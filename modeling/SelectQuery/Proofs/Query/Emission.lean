import SelectQuery.Proofs.Specification.Equality
import SelectQuery.Query.Draft

namespace SelectQuery.Specification

/-- The common tables ahead of a query: its own, then those of its members. -/
def tables (s : Specification) : List (CommonTable Specification) :=
  s.ctes ++ s.unions.flatMap (·.query.ctes)

def firsts (cs : List (CommonTable Specification)) : List (CommonTable Specification) :=
  cs.eraseDupsBy fun c d => c.name == d.name

lemma mem_of_mem_eraseDupsBy {α : Type} {r : α → α → Bool} {a : α} :
    ∀ {as : List α}, a ∈ as.eraseDupsBy r → a ∈ as
  | [], h => by simp at h
  | b :: as, h => by
    rw [List.eraseDupsBy_cons] at h
    rcases List.mem_cons.mp h with rfl | h
    · exact List.mem_cons_self
    · exact List.mem_cons_of_mem _ (List.mem_of_mem_filter (mem_of_mem_eraseDupsBy h))
termination_by as => as.length
decreasing_by
  have := List.length_filter_le (fun c => decide (r c b = false)) as
  simp only [List.length_cons]
  omega

@[simp] lemma firsts_nil : firsts [] = [] := List.eraseDupsBy_nil

lemma firsts_first (c : CommonTable Specification) (cs : List (CommonTable Specification)) :
    firsts (c :: cs) = c :: firsts (cs.filter fun d => !(d.name == c.name)) := by
  rw [firsts, List.eraseDupsBy_cons]
  simp only [Bool.decide_eq_false, firsts]

lemma firsts_filter (p : String → Bool) :
    ∀ cs : List (CommonTable Specification),
      firsts (cs.filter fun c => p c.name) = (firsts cs).filter fun c => p c.name
  | [] => by simp [firsts]
  | c :: cs => by
    have ih := firsts_filter p (cs.filter fun d => !(d.name == c.name))
    rw [firsts_first]
    cases hp : p c.name with
    | true =>
      simp only [List.filter_cons, hp, if_true]
      rw [firsts_first, List.filter_comm, ih]
    | false =>
      simp only [List.filter_cons, hp, Bool.false_eq_true, if_false]
      rw [← ih, List.filter_filter]
      congr 1
      refine List.filter_congr fun d _ => ?_
      by_cases hd : d.name = c.name <;> simp [hd, hp]
termination_by cs => cs.length
decreasing_by
  have := List.length_filter_le (fun d => !(d.name == c.name)) cs
  simp only [List.length_cons]
  omega

lemma firsts_cons (c : CommonTable Specification) (cs : List (CommonTable Specification)) :
    firsts (c :: cs) = c :: (firsts cs).filter fun d => !(d.name == c.name) := by
  rw [firsts_first, firsts_filter fun name => !(name == c.name)]

lemma sizeOf_table_lt {s : Specification} {c : CommonTable Specification} (h : c ∈ s.tables) :
    sizeOf c.query < sizeOf s := by
  rcases List.mem_append.mp h with h | h
  · exact sizeOf_cte_lt h
  · obtain ⟨m, hm, hc⟩ := List.mem_flatMap.mp h
    exact Nat.lt_trans (sizeOf_cte_lt hc) (sizeOf_member_lt hm)

theorem inductionOnTables {motive : Specification → Prop} (s : Specification)
    (step : ∀ s : Specification, (∀ c ∈ s.tables, motive c.query) →
      (∀ d ∈ s.source, motive d.query) →
      (∀ m ∈ s.unions, ∀ d ∈ m.query.source, motive d.query) → motive s) : motive s := by
  refine step s ?_ ?_ ?_
  · exact fun c _ => inductionOnTables c.query step
  · exact fun d _ => inductionOnTables d.query step
  · exact fun m _ d _ => inductionOnTables d.query step
termination_by sizeOf s
decreasing_by
  · exact sizeOf_table_lt ‹_›
  · exact sizeOf_source_lt ‹_›
  · exact Nat.lt_trans (sizeOf_source_lt ‹_›) (sizeOf_member_lt ‹_›)

/-- The queries that contribute parameters, in the order in which they do. A member is written
without its own union. -/
def emitted (s : Specification) : List Specification :=
  s :: (firsts s.tables).attach.flatMap (fun ⟨c, _⟩ => emitted c.query) ++
    s.source.toList.attach.flatMap (fun ⟨d, _⟩ => emitted d.query) ++
    s.unions.attach.flatMap fun ⟨m, _⟩ =>
      m.query :: m.query.source.toList.attach.flatMap fun ⟨d, _⟩ => emitted d.query
termination_by sizeOf s
decreasing_by
  · exact sizeOf_table_lt (mem_of_mem_eraseDupsBy ‹_›)
  · exact sizeOf_source_lt (Option.mem_toList.mp ‹_›)
  · exact Nat.lt_trans (sizeOf_source_lt (Option.mem_toList.mp ‹_›)) (sizeOf_member_lt ‹_›)

lemma flatMap_attach {α β : Type} (as : List α) (f : α → List β) :
    as.attach.flatMap (fun a => f a.1) = as.flatMap f := by
  conv_rhs => rw [← List.attach_map_subtype_val as]
  rw [List.flatMap_map]

lemma emitted_eq (s : Specification) :
    s.emitted = s :: (firsts s.tables).flatMap (fun c => c.query.emitted) ++
      s.source.toList.flatMap (fun d => d.query.emitted) ++
      s.unions.flatMap fun m => m.query :: m.query.source.toList.flatMap (·.query.emitted) := by
  have hsource (q : Specification) :
      (q.source.toList.attach.flatMap fun d => d.1.query.emitted) =
        q.source.toList.flatMap (·.query.emitted) :=
    flatMap_attach _ fun d : DerivedTable Specification => d.query.emitted
  rw [emitted, hsource, flatMap_attach _ fun c : CommonTable Specification => c.query.emitted]
  simp only [hsource]
  rw [flatMap_attach _ fun m : UnionMember Specification =>
    m.query :: m.query.source.toList.flatMap (·.query.emitted)]

/-- The queries that are drafted as a whole for a query. -/
inductive Writes : Specification → Specification → Prop
  | self {s} : Writes s s
  | table {s c t} : c ∈ s.tables → Writes c.query t → Writes s t
  | source {s d t} : d ∈ s.source → Writes d.query t → Writes s t
  | member {s m d t} : m ∈ s.unions → d ∈ m.query.source → Writes d.query t → Writes s t

def Emits (s q : Specification) : Prop :=
  ∃ t, Writes s t ∧ (q = t ∨ ∃ m ∈ t.unions, q = m.query)

def Consistent (cs : List (CommonTable Specification)) : Prop :=
  cs.Pairwise fun c d => c.name = d.name → c.query.same d.query = true

structure Proper (t : Specification) : Prop where
  table : Text.isBlank t.table = false
  members : ∀ m ∈ t.unions, Text.isBlank m.query.table = false
  tables : Consistent t.tables

def Thorough (s : Specification) : Prop := ∀ t, Writes s t → Proper t

lemma thorough_iff {s : Specification} :
    Thorough s ↔ Proper s ∧ (∀ c ∈ s.tables, Thorough c.query) ∧
      (∀ d ∈ s.source, Thorough d.query) ∧
      ∀ m ∈ s.unions, ∀ d ∈ m.query.source, Thorough d.query := by
  constructor
  · intro h
    exact ⟨h s .self, fun c hc t ht => h t (.table hc ht), fun d hd t ht => h t (.source hd ht),
      fun m hm d hd t ht => h t (.member hm hd ht)⟩
  · rintro ⟨hs, htables, hsource, hmembers⟩ t ht
    cases ht with
    | self => exact hs
    | table hc ht => exact htables _ hc t ht
    | source hd ht => exact hsource _ hd t ht
    | member hm hd ht => exact hmembers _ hm _ hd t ht

section Same

variable {s t : Specification}

lemma forall₂_tables (h : s.same t = true) : List.Forall₂ SameCte s.tables t.tables := by
  obtain h := same_iff.mp h
  refine List.rel_append h.ctes (List.rel_flatMap h.unions ?_)
  intro m n hmn
  exact (same_iff.mp hmn.1).ctes

lemma source_of_same (h : s.same t = true) {e : DerivedTable Specification} (he : e ∈ t.source) :
    ∃ d ∈ s.source, SameTable d e := by
  have hs := (same_iff.mp h).source
  rw [Option.mem_def.mp he] at hs
  cases hd : s.source with
  | none =>
    rw [hd] at hs
    cases hs
  | some d =>
    rw [hd] at hs
    cases hs with
    | some h => exact ⟨d, rfl, h⟩

lemma writes_of_same (h : s.same t = true) {u : Specification} (hu : Writes t u) :
    ∃ v, Writes s v ∧ v.same u = true := by
  induction hu generalizing s with
  | self => exact ⟨s, .self, h⟩
  | table hc _ ih =>
    obtain ⟨c, hcs, hsame⟩ := forall₂_exists_left (forall₂_tables h) hc
    obtain ⟨v, hv, hvu⟩ := ih hsame.2
    exact ⟨v, .table hcs hv, hvu⟩
  | source hd _ ih =>
    obtain ⟨d, hds, hsame⟩ := source_of_same h hd
    obtain ⟨v, hv, hvu⟩ := ih hsame.1
    exact ⟨v, .source hds hv, hvu⟩
  | member hm hd _ ih =>
    obtain ⟨m, hms, hmember⟩ := forall₂_exists_left (same_iff.mp h).unions hm
    obtain ⟨d, hds, hsame⟩ := source_of_same hmember.1 hd
    obtain ⟨v, hv, hvu⟩ := ih hsame.1
    exact ⟨v, .member hms hds hv, hvu⟩

lemma consistent_of_forall₂ {as bs : List (CommonTable Specification)}
    (h : List.Forall₂ SameCte as bs) (ha : Consistent as) : Consistent bs := by
  refine pairwise_of_forall₂ h ha ?_
  intro a c b d hab hcd hac hname
  have hsame : a.query.same c.query = true := hac (hab.1.trans (hname.trans hcd.1.symm))
  exact same_trans (same_symm hab.2) (same_trans hsame hcd.2)

lemma proper_of_same (h : s.same t = true) (hs : Proper s) : Proper t := by
  have hm := same_iff.mp h
  refine ⟨hm.table ▸ hs.table, ?_, consistent_of_forall₂ (forall₂_tables h) hs.tables⟩
  intro n hn
  obtain ⟨m, hms, hmn⟩ := forall₂_exists_left hm.unions hn
  rw [← (same_iff.mp hmn.1).table]
  exact hs.members m hms

lemma thorough_of_same (h : s.same t = true) (hs : Thorough s) : Thorough t := by
  intro u hu
  obtain ⟨v, hv, hvu⟩ := writes_of_same h hu
  exact proper_of_same hvu (hs v hv)

lemma emits_of_same (h : s.same t = true) {q : Specification} (hq : Emits t q) :
    ∃ r, Emits s r ∧ r.same q = true := by
  obtain ⟨u, hu, hq⟩ := hq
  obtain ⟨v, hv, hvu⟩ := writes_of_same h hu
  rcases hq with rfl | ⟨n, hn, rfl⟩
  · exact ⟨v, ⟨v, hv, Or.inl rfl⟩, hvu⟩
  · obtain ⟨m, hm, hmn⟩ := forall₂_exists_left (same_iff.mp hvu).unions hn
    exact ⟨m.query, ⟨v, hv, Or.inr ⟨m, hm, rfl⟩⟩, hmn.1⟩

end Same

section Emission

variable {s q : Specification}

lemma mem_emitted_iff :
    q ∈ s.emitted ↔ q = s ∨ (∃ c ∈ firsts s.tables, q ∈ c.query.emitted) ∨
      (∃ d ∈ s.source, q ∈ d.query.emitted) ∨
      ∃ m ∈ s.unions, q = m.query ∨ ∃ d ∈ m.query.source, q ∈ d.query.emitted := by
  rw [emitted_eq]
  simp only [List.mem_append, List.mem_cons, List.mem_flatMap, Option.mem_toList,
    Option.mem_def, or_assoc]

lemma self_mem_emitted : s ∈ s.emitted := mem_emitted_iff.mpr (Or.inl rfl)

lemma mem_emitted_of_table {c : CommonTable Specification} (hc : c ∈ firsts s.tables)
    (hq : q ∈ c.query.emitted) : q ∈ s.emitted :=
  mem_emitted_iff.mpr (Or.inr (Or.inl ⟨c, hc, hq⟩))

lemma mem_emitted_of_source {d : DerivedTable Specification} (hd : d ∈ s.source)
    (hq : q ∈ d.query.emitted) : q ∈ s.emitted :=
  mem_emitted_iff.mpr (Or.inr (Or.inr (Or.inl ⟨d, hd, hq⟩)))

lemma member_mem_emitted {m : UnionMember Specification} (hm : m ∈ s.unions) :
    m.query ∈ s.emitted :=
  mem_emitted_iff.mpr (Or.inr (Or.inr (Or.inr ⟨m, hm, Or.inl rfl⟩)))

lemma mem_emitted_of_member {m : UnionMember Specification} {d : DerivedTable Specification}
    (hm : m ∈ s.unions) (hd : d ∈ m.query.source) (hq : q ∈ d.query.emitted) : q ∈ s.emitted :=
  mem_emitted_iff.mpr (Or.inr (Or.inr (Or.inr ⟨m, hm, Or.inr ⟨d, hd, hq⟩⟩)))

lemma emits_iff :
    Emits s q ↔ q = s ∨ (∃ c ∈ s.tables, Emits c.query q) ∨ (∃ d ∈ s.source, Emits d.query q) ∨
      ∃ m ∈ s.unions, q = m.query ∨ ∃ d ∈ m.query.source, Emits d.query q := by
  constructor
  · rintro ⟨t, ht, hq⟩
    cases ht with
    | self =>
      rcases hq with rfl | ⟨m, hm, rfl⟩
      · exact Or.inl rfl
      · exact Or.inr (Or.inr (Or.inr ⟨m, hm, Or.inl rfl⟩))
    | table hc ht => exact Or.inr (Or.inl ⟨_, hc, t, ht, hq⟩)
    | source hd ht => exact Or.inr (Or.inr (Or.inl ⟨_, hd, t, ht, hq⟩))
    | member hm hd ht => exact Or.inr (Or.inr (Or.inr ⟨_, hm, Or.inr ⟨_, hd, t, ht, hq⟩⟩))
  · rintro (rfl | ⟨c, hc, t, ht, hq⟩ | ⟨d, hd, t, ht, hq⟩ | ⟨m, hm, rfl | ⟨d, hd, t, ht, hq⟩⟩)
    · exact ⟨q, .self, Or.inl rfl⟩
    · exact ⟨t, .table hc ht, hq⟩
    · exact ⟨t, .source hd ht, hq⟩
    · exact ⟨s, .self, Or.inr ⟨m, hm, rfl⟩⟩
    · exact ⟨t, .member hm hd ht, hq⟩

lemma emits_of_mem_emitted (h : q ∈ s.emitted) : Emits s q := by
  induction s using inductionOnTables with
  | step s htables hsource hmembers =>
    rw [emits_iff]
    rcases mem_emitted_iff.mp h with h | ⟨c, hc, h⟩ | ⟨d, hd, h⟩ | ⟨m, hm, h⟩
    · exact Or.inl h
    · have hc := mem_of_mem_eraseDupsBy hc
      exact Or.inr (Or.inl ⟨c, hc, htables c hc h⟩)
    · exact Or.inr (Or.inr (Or.inl ⟨d, hd, hsource d hd h⟩))
    · refine Or.inr (Or.inr (Or.inr ⟨m, hm, h.imp_right ?_⟩))
      rintro ⟨d, hd, h⟩
      exact ⟨d, hd, hmembers m hm d hd h⟩

def AlikeCte (c d : CommonTable Specification) : Prop := c = d ∨ SameCte c d

lemma AlikeCte.name {c d : CommonTable Specification} (h : AlikeCte c d) : c.name = d.name := by
  rcases h with rfl | h
  · rfl
  · exact h.1

lemma exists_mem_firsts {c : CommonTable Specification} {cs : List (CommonTable Specification)}
    (hcs : Consistent cs) (h : c ∈ cs) : ∃ f ∈ firsts cs, AlikeCte f c := by
  induction cs with
  | nil => cases h
  | cons b cs ih =>
    obtain ⟨hb, hrest⟩ := List.pairwise_cons.mp hcs
    rw [firsts_cons]
    rcases List.mem_cons.mp h with rfl | h
    · exact ⟨c, List.mem_cons_self, Or.inl rfl⟩
    · by_cases hname : b.name = c.name
      · exact ⟨b, List.mem_cons_self, Or.inr ⟨hname, hb c h hname⟩⟩
      · obtain ⟨f, hf, hfc⟩ := ih hrest h
        have hother : f.name ≠ b.name := hfc.name ▸ Ne.symm hname
        exact ⟨f, List.mem_cons_of_mem _ (List.mem_filter.mpr ⟨hf, by simpa using hother⟩), hfc⟩

lemma exists_mem_emitted (hs : Thorough s) (hq : Emits s q) {name : String}
    (h : (q.parameters.get? name).isSome = true) :
    ∃ r ∈ s.emitted, (r.parameters.get? name).isSome = true := by
  induction s using inductionOnTables generalizing q with
  | step s htables hsource hmembers =>
    obtain ⟨hproper, hthorough, hsources, hmembersources⟩ := thorough_iff.mp hs
    rcases emits_iff.mp hq with rfl | ⟨c, hc, hq⟩ | ⟨d, hd, hq⟩ | ⟨m, hm, rfl | ⟨d, hd, hq⟩⟩
    · exact ⟨q, self_mem_emitted, h⟩
    · -- a table that is passed over has the names of the first one of its name
      obtain ⟨f, hf, hfc⟩ := exists_mem_firsts hproper.tables hc
      have hft := mem_of_mem_eraseDupsBy hf
      obtain ⟨p, hp, hpq⟩ : ∃ p, Emits f.query p ∧ (p.parameters.get? name).isSome = true := by
        rcases hfc with rfl | hfc
        · exact ⟨q, hq, h⟩
        · obtain ⟨p, hp, hpq⟩ := emits_of_same hfc.2 hq
          have hnames := Parameters.isSome_get?_of_same (same_iff.mp hpq).parameters name
          exact ⟨p, hp, hnames.trans h⟩
      obtain ⟨r, hr, hrn⟩ := htables f hft (hthorough f hft) hp hpq
      exact ⟨r, mem_emitted_of_table hf hr, hrn⟩
    · obtain ⟨r, hr, hrn⟩ := hsource d hd (hsources d hd) hq h
      exact ⟨r, mem_emitted_of_source hd hr, hrn⟩
    · exact ⟨m.query, member_mem_emitted hm, h⟩
    · obtain ⟨r, hr, hrn⟩ := hmembers m hm d hd (hmembersources m hm d hd) hq h
      exact ⟨r, mem_emitted_of_member hm hd hr, hrn⟩

end Emission

section Outline

lemma outlineMembers_eq (ms : List (UnionMember Specification)) :
    outlineMembers ms = ms.map fun m => (m, m.query.outline) := by
  induction ms with
  | nil => rfl
  | cons m ms ih => rw [outlineMembers, ih, List.map_cons]

lemma draftCtes_eq (cs : List (CommonTable Specification)) :
    draftCtes cs = cs.map fun c => (c, c.query.draft) := by
  induction cs with
  | nil => rfl
  | cons c cs ih => rw [draftCtes, ih, List.map_cons, draft]

lemma outline_members (s : Specification) :
    s.outline.members = s.unions.map fun m => (m, m.query.outline) := by
  cases s
  exact outlineMembers_eq _

lemma outline_source (s : Specification) :
    s.outline.source = s.source.map fun d => (d, d.query.draft) := by
  obtain ⟨_, _, _, _, _, _, _, _, _, _, _, _, _, source, _⟩ := s
  cases source with
  | none => rfl
  | some d => rfl

lemma outline_ctes (s : Specification) :
    s.outline.ctes = s.ctes.map fun c => (c, c.query.draft) := by
  cases s
  exact draftCtes_eq _

lemma outline_tables (s : Specification) :
    s.outline.ctes ++ s.outline.members.flatMap (·.2.ctes) =
      s.tables.map fun c => (c, c.query.draft) := by
  rw [outline_ctes, outline_members, tables, List.map_append, List.flatMap_map, List.map_flatMap]
  simp only [outline_ctes]

end Outline

end SelectQuery.Specification
