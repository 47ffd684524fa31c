import SelectQuery.Proofs.Query.Success
import SelectQuery.Proofs.Specification.Validity

/-! Primary keys are for information only, but for one thing: the keys of common tables that share a
name are compared. -/

namespace SelectQuery.Specification

mutual

def withoutKeys : Specification → Specification
  | ⟨table, _, projection, distinct, joins, filter, grouping, groupFilter, ordering, skip, take,
      parameters, unions, source, ctes⟩ =>
    ⟨table, "", projection, distinct, joins, filter, grouping, groupFilter, ordering, skip, take,
      parameters, membersWithoutKeys unions, sourceWithoutKeys source, ctesWithoutKeys ctes⟩

def membersWithoutKeys : List (UnionMember Specification) → List (UnionMember Specification)
  | [] => []
  | m :: ms => { m with query := withoutKeys m.query } :: membersWithoutKeys ms

def sourceWithoutKeys : Option (DerivedTable Specification) → Option (DerivedTable Specification)
  | none => none
  | some d => some { d with query := withoutKeys d.query }

def ctesWithoutKeys : List (CommonTable Specification) → List (CommonTable Specification)
  | [] => []
  | c :: cs => { c with query := withoutKeys c.query } :: ctesWithoutKeys cs

end

def bareMember (m : UnionMember Specification) : UnionMember Specification :=
  { m with query := m.query.withoutKeys }

def bareSource (d : DerivedTable Specification) : DerivedTable Specification :=
  { d with query := d.query.withoutKeys }

def bareTable (c : CommonTable Specification) : CommonTable Specification :=
  { c with query := c.query.withoutKeys }

lemma membersWithoutKeys_eq (ms : List (UnionMember Specification)) :
    membersWithoutKeys ms = ms.map bareMember := by
  induction ms with
  | nil => rfl
  | cons m ms ih => rw [membersWithoutKeys, ih, List.map_cons, bareMember]

lemma sourceWithoutKeys_eq (source : Option (DerivedTable Specification)) :
    sourceWithoutKeys source = source.map bareSource := by
  cases source <;> rfl

lemma ctesWithoutKeys_eq (cs : List (CommonTable Specification)) :
    ctesWithoutKeys cs = cs.map bareTable := by
  induction cs with
  | nil => rfl
  | cons c cs ih => rw [ctesWithoutKeys, ih, List.map_cons, bareTable]

lemma withoutKeys_eq (s : Specification) :
    s.withoutKeys =
      { s with
        primaryKey := ""
        unions := s.unions.map bareMember
        source := s.source.map bareSource
        ctes := s.ctes.map bareTable } := by
  cases s
  rw [withoutKeys, membersWithoutKeys_eq, sourceWithoutKeys_eq, ctesWithoutKeys_eq]

section Parts

variable (s : Specification)

@[simp] lemma withoutKeys_unions : s.withoutKeys.unions = s.unions.map bareMember := by
  rw [withoutKeys_eq]

@[simp] lemma withoutKeys_ctes : s.withoutKeys.ctes = s.ctes.map bareTable := by
  rw [withoutKeys_eq]

@[simp] lemma withoutKeys_parameters : s.withoutKeys.parameters = s.parameters := by
  rw [withoutKeys_eq]

@[simp] lemma withoutKeys_ordering : s.withoutKeys.ordering = s.ordering := by
  rw [withoutKeys_eq]

@[simp] lemma withoutKeys_pagingText : s.withoutKeys.pagingText = s.pagingText := by
  rw [withoutKeys_eq]
  rfl

@[simp] lemma withoutKeys_requireTable : s.withoutKeys.requireTable = s.requireTable := by
  rw [withoutKeys_eq]
  rfl

@[simp] lemma withoutKeys_tableRows (selected : String) :
    s.withoutKeys.tableRows selected = s.tableRows selected := by
  rw [withoutKeys_eq]
  rfl

lemma withoutKeys_tables : s.withoutKeys.tables = s.tables.map bareTable := by
  simp [tables, List.flatMap_map, List.map_flatMap, bareMember]

end Parts

lemma same_withoutKeys {s t : Specification} (h : s.same t = true) :
    s.withoutKeys.same t.withoutKeys = true := by
  induction s using inductionOn generalizing t with
  | step s unions source ctes =>
    obtain h := same_iff.mp h
    rw [withoutKeys_eq s, withoutKeys_eq t, same_iff]
    constructor
    case unions => exact forall₂_map h.unions fun m hm _ hmn => ⟨unions m hm hmn.1, hmn.2⟩
    case source => exact rel_map h.source fun d hd _ hde => ⟨source d hd hde.1, hde.2⟩
    case ctes => exact forall₂_map h.ctes fun c hc _ hcd => ⟨hcd.1, ctes c hc hcd.2⟩
    case primaryKey => rfl
    case parameters => exact h.parameters
    all_goals simp only [h.table, h.projection, h.distinct, h.joins, h.filter, h.grouping,
      h.groupFilter, h.ordering, h.skip, h.take]

lemma validate_withoutKeys (s : Specification) : s.withoutKeys.validate = s.validate := by
  induction s using inductionOn with
  | step s unions source ctes =>
    have hunions : validateMembers (s.unions.map bareMember) = validateMembers s.unions :=
      validateMembers_map unions
    have hsource : validateSource (s.source.map bareSource) = validateSource s.source :=
      validateSource_map source
    have hctes : validateCtes (s.ctes.map bareTable) = validateCtes s.ctes := validateCtes_map ctes
    rw [withoutKeys_eq, validate_eq, validate_eq, hunions, hsource, hctes]
    rfl

def KeysAgree (cs : List (CommonTable Specification)) : Prop :=
  cs.Pairwise fun c d => c.name = d.name →
    c.query.withoutKeys.same d.query.withoutKeys = true → c.query.same d.query = true

def Keyed (s : Specification) : Prop := ∀ t, Writes s t → KeysAgree t.tables

def Tracks {α : Type} (P : Prop) (x y : Except Error α) : Prop :=
  x = y ∨ P ∧ ∃ name, x = .error (repeatedCte name)

namespace Tracks

variable {α β : Type} {P : Prop} {x y : Except Error α}

lemma refl (x : Except Error α) : Tracks P x x := Or.inl rfl

lemma bind {f g : α → Except Error β} (h : Tracks P x y) (hn : ∀ a, Tracks P (f a) (g a)) :
    Tracks P (x >>= f) (y >>= g) := by
  rcases h with rfl | ⟨hp, name, rfl⟩
  · cases x with
    | error e => exact refl _
    | ok a => exact hn a
  · exact Or.inr ⟨hp, name, rfl⟩

end Tracks

section Steps

variable {P : Prop} {s : Specification}

def DraftTracks (P : Prop) (s : Specification) : Prop := Tracks P s.draft s.withoutKeys.draft

lemma tracks_core (p : Parameters) (ih : ∀ d ∈ s.source, DraftTracks P d.query) :
    Tracks P (s.core (s.source.map fun d => (d, d.query.draft)) p)
      (s.withoutKeys.core (s.withoutKeys.source.map fun d => (d, d.query.draft)) p) := by
  rw [withoutKeys_eq]
  cases hs : s.source with
  | none => exact .refl _
  | some d => exact (ih d hs).bind fun inner => .refl _

lemma tracks_unionText {ms : List (UnionMember Specification)} (p : Parameters)
    (ih : ∀ m ∈ ms, ∀ d ∈ m.query.source, DraftTracks P d.query) :
    Tracks P (unionText p (ms.map fun m => (m, m.query.outline)))
      (unionText p ((ms.map bareMember).map fun m => (m, m.query.outline))) := by
  induction ms generalizing p with
  | nil => exact .refl _
  | cons m ms ihms =>
    obtain ⟨ihm, ihrest⟩ := List.forall_mem_cons.mp ih
    rw [List.map_cons, List.map_cons, List.map_cons, unionText, unionText, outline_source,
      outline_source, bareMember, withoutKeys_requireTable, withoutKeys_parameters]
    exact (Tracks.refl _).bind fun _ => (Tracks.refl _).bind fun merged =>
      (tracks_core merged ihm).bind fun inner => (ihms inner.parameters ihrest).bind fun _ =>
      .refl _

lemma tracks_definitions {seen cs : List (CommonTable Specification)} (p : Parameters)
    (hk : ¬ P → KeysAgree (seen ++ cs)) (ih : ∀ c ∈ cs, DraftTracks P c.query) :
    Tracks P (definitions seen p (cs.map fun c => (c, c.query.draft)))
      (definitions (seen.map bareTable) p
        ((cs.map bareTable).map fun c => (c, c.query.draft))) := by
  induction cs generalizing seen p with
  | nil => exact .refl _
  | cons c cs ihcs =>
    obtain ⟨ihc, ihrest⟩ := List.forall_mem_cons.mp ih
    rw [List.map_cons, List.map_cons, List.map_cons, definitions, definitions, List.find?_map]
    have hnames : (fun f : CommonTable Specification => f.name == (bareTable c).name) ∘ bareTable =
        fun f => f.name == c.name := rfl
    rw [hnames]
    cases hfind : seen.find? (·.name == c.name) with
    | none =>
      have hseen : seen.map bareTable ++ [bareTable c] = (seen ++ [c]).map bareTable := by
        rw [List.map_append, List.map_singleton]
      simp only [Option.map_none, hseen]
      refine ihc.bind fun inner => (Tracks.refl _).bind fun merged =>
        (ihcs merged ?_ ihrest).bind fun _ => .refl _
      rw [List.append_assoc]
      exact hk
    | some f =>
      have hf := List.mem_of_find?_eq_some hfind
      have hname : f.name = c.name := by simpa using List.find?_some hfind
      simp only [Option.map_some]
      cases hsame : f.query.same c.query with
      | true =>
        have hbare : (bareTable f).query.same (bareTable c).query = true := same_withoutKeys hsame
        simp only [hbare, if_true]
        exact ihcs p (fun hp => (hk hp).sublist (by simp)) ihrest
      | false =>
        cases hbare : (bareTable f).query.same (bareTable c).query with
        | false => exact .refl _
        | true =>
          -- the one place where keys decide: the queries are equal but for them
          refine Or.inr ⟨by_contra fun hp => ?_, c.name, rfl⟩
          have hagree := (List.pairwise_append.mp (hk hp)).2.2 f hf c List.mem_cons_self
          exact Bool.noConfusion (hsame.symm.trans (hagree hname hbare))

theorem tracks_draft (s : Specification) (hk : ¬ P → Keyed s) : DraftTracks P s := by
  induction s using inductionOnTables with
  | step s htables hsource hmembers =>
    rw [DraftTracks, draft, draft, assemble, assemble, outline_tables, outline_tables,
      outline_source, outline_source, outline_members, outline_members, withoutKeys_tables]
    simp only [withoutKeys_requireTable, withoutKeys_parameters, withoutKeys_unions,
      withoutKeys_ordering, withoutKeys_pagingText]
    have hdefined : ∀ c ∈ s.tables, DraftTracks P c.query :=
      fun c hc => htables c hc fun hp t ht => hk hp t (.table hc ht)
    have hderived : ∀ d ∈ s.source, DraftTracks P d.query :=
      fun d hd => hsource d hd fun hp t ht => hk hp t (.source hd ht)
    have hunited : ∀ m ∈ s.unions, ∀ d ∈ m.query.source, DraftTracks P d.query :=
      fun m hm d hd => hmembers m hm d hd fun hp t ht => hk hp t (.member hm hd ht)
    have hkeys : ¬ P → KeysAgree ([] ++ s.tables) := fun hp => hk hp s .self
    exact (Tracks.refl _).bind fun _ =>
      (tracks_definitions s.parameters hkeys hdefined).bind
        (Prod.forall.mpr fun _ merged => (tracks_core merged hderived).bind fun inner =>
        (tracks_unionText inner.parameters hunited).bind fun _ => .refl _)

lemma tracks_compile (s : Specification) (dialect : Dialect) (hk : ¬ P → Keyed s) :
    Tracks P (s.compile dialect .rows) (s.withoutKeys.compile dialect .rows) := by
  rw [compile, compile, validate_withoutKeys]
  exact (Tracks.refl _).bind fun _ => (tracks_draft s hk).bind fun _ => .refl _

end Steps

lemma compile_withoutKeys_of_ne {mode : Mode} (h : mode ≠ .rows) (s : Specification)
    (dialect : Dialect) : s.withoutKeys.compile dialect mode = s.compile dialect mode := by
  cases mode with
  | rows => exact absurd rfl h
  | count =>
    rw [compile, compile, validate_withoutKeys]
    simp only [countQuery, withoutKeys_tableRows, withoutKeys_parameters]
  | existence =>
    rw [compile, compile, validate_withoutKeys]
    simp only [existenceQuery, withoutKeys_tableRows, withoutKeys_parameters]

lemma compile_withoutKeys_of_keyed {s : Specification} (h : Keyed s) (dialect : Dialect) :
    s.compile dialect .rows = s.withoutKeys.compile dialect .rows := by
  rcases tracks_compile s dialect fun _ : ¬ False => h with heq | ⟨hfalse, -⟩
  · exact heq
  · exact hfalse.elim

theorem compile_congr_keys {s t : Specification} (h : s.withoutKeys = t.withoutKeys)
    (dialect : Dialect) :
    (∀ mode, (mode = .rows → Keyed s ∧ Keyed t) →
      s.compile dialect mode = t.compile dialect mode) ∧
    (s.compile dialect .rows = t.compile dialect .rows ∨
      ∃ name, s.compile dialect .rows = .error (repeatedCte name) ∨
        t.compile dialect .rows = .error (repeatedCte name)) := by
  constructor
  · intro mode hk
    by_cases hmode : mode = .rows
    · subst hmode
      obtain ⟨hs, ht⟩ := hk rfl
      rw [compile_withoutKeys_of_keyed hs, compile_withoutKeys_of_keyed ht, h]
    · rw [← compile_withoutKeys_of_ne hmode s, h, compile_withoutKeys_of_ne hmode t]
  · have hbare (u : Specification) :
        Tracks True (u.compile dialect .rows) (u.withoutKeys.compile dialect .rows) :=
      tracks_compile u dialect fun hp => absurd trivial hp
    rcases hbare s with hs | ⟨-, name, hs⟩
    · rcases hbare t with ht | ⟨-, name, ht⟩
      · exact Or.inl (by rw [hs, ht, h])
      · exact Or.inr ⟨name, Or.inr ht⟩
    · exact Or.inr ⟨name, Or.inl hs⟩

def sharingOrders (key key' : String) : Specification :=
  { table := "large", ctes := [⟨"large", { largeOrders with primaryKey := key }⟩]
    unions := [⟨{ table := "large", filter := "note IS NULL"
                  ctes := [⟨"large", { largeOrders with primaryKey := key' }⟩] }, true⟩] }

lemma keyed_sharingOrders {key : String}
    (h : Specification.same { largeOrders with primaryKey := key }
      { largeOrders with primaryKey := key } = true) : Keyed (sharingOrders key key) := by
  have htables : (sharingOrders key key).tables =
      [⟨"large", { largeOrders with primaryKey := key }⟩,
        ⟨"large", { largeOrders with primaryKey := key }⟩] := rfl
  intro t ht
  cases ht with
  | self =>
    rw [htables]
    refine .cons (fun d hd _ _ => ?_) (.cons nofun .nil)
    rw [List.mem_singleton.mp hd]
    exact h
  | @table _ c _ hc ht =>
    rw [htables] at hc
    obtain rfl : c = _ := by simpa using hc
    cases ht with
    | self => exact .nil
    | table h => cases h
    | source h => cases h
    | member h => cases h
  | source h => cases h
  | member hm hd _ =>
    cases List.mem_singleton.mp hm
    cases hd

theorem compile_congr_keys_sharingOrders :
    (sharingOrders "id" "id").withoutKeys = (sharingOrders "" "").withoutKeys ∧
      (sharingOrders "id" "id").compile .sqlite .rows =
        (sharingOrders "" "").compile .sqlite .rows := by
  have hbare : (sharingOrders "id" "id").withoutKeys = (sharingOrders "" "").withoutKeys := rfl
  refine ⟨hbare, (compile_congr_keys hbare .sqlite).1 .rows fun _ => ⟨?_, ?_⟩⟩
  · exact keyed_sharingOrders (by decide +kernel)
  · exact keyed_sharingOrders (by decide +kernel)

theorem compile_sharingOrders_ne :
    (sharingOrders "id" "").withoutKeys = (sharingOrders "id" "id").withoutKeys ∧
      (sharingOrders "id" "").compile .sqlite .rows ≠
        (sharingOrders "id" "id").compile .sqlite .rows := by
  refine ⟨rfl, fun h => ?_⟩
  have hshared : ((sharingOrders "id" "id").compile .sqlite .rows).isOk = true := by
    decide +kernel
  have hclash : ((sharingOrders "id" "").compile .sqlite .rows).isOk = false := by
    decide +kernel
  rw [h, hshared] at hclash
  exact Bool.noConfusion hclash

end SelectQuery.Specification
