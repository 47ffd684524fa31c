import Mathlib.Data.List.Forall2
import SelectQuery.Proofs.Parameters.Merging
import SelectQuery.Specification.Basic

namespace SelectQuery

section Lists

variable {α β γ : Type} {R : α → β → Prop} {as : List α} {bs : List β}

lemma forall₂_flip {S : β → α → Prop} (h : List.Forall₂ R as bs)
    (hs : ∀ a ∈ as, ∀ b, R a b → S b a) : List.Forall₂ S bs as := by
  induction h with
  | nil => exact .nil
  | cons hr _ ih =>
    exact .cons (hs _ List.mem_cons_self _ hr) (ih fun a ha => hs a (List.mem_cons_of_mem _ ha))

lemma forall₂_trans {S : β → γ → Prop} {T : α → γ → Prop} {cs : List γ}
    (h : List.Forall₂ R as bs) (h' : List.Forall₂ S bs cs)
    (ht : ∀ a ∈ as, ∀ b c, R a b → S b c → T a c) : List.Forall₂ T as cs := by
  induction h generalizing cs with
  | nil => cases h'; exact .nil
  | cons hr _ ih =>
    cases h' with
    | cons hs h' =>
      exact .cons (ht _ List.mem_cons_self _ _ hr hs)
        (ih h' fun a ha => ht a (List.mem_cons_of_mem _ ha))

lemma forall₂_exists_left (h : List.Forall₂ R as bs) {b : β} (hb : b ∈ bs) :
    ∃ a ∈ as, R a b := by
  induction h with
  | nil => cases hb
  | cons hr _ ih =>
    rcases List.mem_cons.mp hb with rfl | hb
    · exact ⟨_, List.mem_cons_self, hr⟩
    · obtain ⟨a, ha, hr⟩ := ih hb
      exact ⟨a, List.mem_cons_of_mem _ ha, hr⟩

lemma pairwise_of_forall₂ {S : α → α → Prop} {T : β → β → Prop} (h : List.Forall₂ R as bs)
    (hs : as.Pairwise S) (ht : ∀ a a' b b', R a b → R a' b' → S a a' → T b b') : bs.Pairwise T := by
  induction h with
  | nil => exact .nil
  | cons hr hrest ih =>
    obtain ⟨hhead, htail⟩ := List.pairwise_cons.mp hs
    refine .cons ?_ (ih htail)
    intro b' hb'
    obtain ⟨a', ha', hr'⟩ := forall₂_exists_left hrest hb'
    exact ht _ _ _ _ hr hr' (hhead a' ha')

lemma forall₂_map {α' β' : Type} {S : α' → β' → Prop} {f : α → α'} {g : β → β'}
    (h : List.Forall₂ R as bs) (hs : ∀ a ∈ as, ∀ b, R a b → S (f a) (g b)) :
    List.Forall₂ S (as.map f) (bs.map g) := by
  induction h with
  | nil => exact .nil
  | cons hr _ ih =>
    exact .cons (hs _ List.mem_cons_self _ hr) (ih fun a ha => hs a (List.mem_cons_of_mem _ ha))

lemma forall₂_flatMap {γ δ : Type} {S : γ → δ → Prop} {f : α → List γ} {g : β → List δ}
    (h : List.Forall₂ R as bs) (hs : ∀ a ∈ as, ∀ b, R a b → List.Forall₂ S (f a) (g b)) :
    List.Forall₂ S (as.flatMap f) (bs.flatMap g) := by
  induction h with
  | nil => exact .nil
  | cons hr _ ih =>
    obtain ⟨hfirst, hrest⟩ := List.forall_mem_cons.mp hs
    rw [List.flatMap_cons, List.flatMap_cons]
    exact List.rel_append (hfirst _ hr) (ih hrest)

lemma rel_cases {a : Option α} {b : Option β} (h : Option.Rel R a b) :
    (a = none ∧ b = none) ∨ ∃ x y, a = some x ∧ b = some y ∧ R x y := by
  cases h with
  | some hr => exact Or.inr ⟨_, _, rfl, rfl, hr⟩
  | none => exact Or.inl ⟨rfl, rfl⟩

lemma rel_flip {S : β → α → Prop} {a : Option α} {b : Option β} (h : Option.Rel R a b)
    (hs : ∀ x ∈ a, ∀ y, R x y → S y x) : Option.Rel S b a := by
  cases h with
  | some hr => exact .some (hs _ rfl _ hr)
  | none => exact .none

lemma rel_map {α' β' : Type} {S : α' → β' → Prop} {f : α → α'} {g : β → β'} {a : Option α}
    {b : Option β} (h : Option.Rel R a b) (hs : ∀ x ∈ a, ∀ y, R x y → S (f x) (g y)) :
    Option.Rel S (a.map f) (b.map g) := by
  cases h with
  | some hr => exact .some (hs _ rfl _ hr)
  | none => exact .none

lemma rel_trans {S : β → γ → Prop} {T : α → γ → Prop} {a : Option α} {b : Option β}
    {c : Option γ} (h : Option.Rel R a b) (h' : Option.Rel S b c)
    (ht : ∀ x ∈ a, ∀ y z, R x y → S y z → T x z) : Option.Rel T a c := by
  cases h with
  | some hr =>
    cases h' with
    | some hs => exact .some (ht _ rfl _ _ hr hs)
  | none =>
    cases h'
    exact .none

end Lists

namespace Parameters

lemma sameEntries_iff {as bs : List (String × Value)} :
    sameEntries as bs = true ↔
      List.Forall₂ (fun a b => a.1 = b.1 ∧ a.2.same b.2 = true) as bs := by
  induction as generalizing bs with
  | nil => cases bs <;> simp [sameEntries]
  | cons a as ih => cases bs <;> simp [sameEntries, ih]

lemma same_symm {p q : Parameters} (h : p.same q = true) : q.same p = true := by
  rw [same, sameEntries_iff] at h ⊢
  exact forall₂_flip h fun _ _ _ h => ⟨h.1.symm, Value.same_symm h.2⟩

lemma same_trans {p q r : Parameters} (h : p.same q = true) (h' : q.same r = true) :
    p.same r = true := by
  rw [same, sameEntries_iff] at h h' ⊢
  exact forall₂_trans h h' fun _ _ _ _ h h' => ⟨h.1.trans h'.1, Value.same_trans h.2 h'.2⟩

lemma get?_of_same {p q : Parameters} (h : p.same q = true) (name : String) :
    Option.Rel (fun v w => v.same w = true) (p.get? name) (q.get? name) := by
  rw [same, sameEntries_iff] at h
  change Option.Rel _ (p.entries.lookup name) (q.entries.lookup name)
  generalize p.entries = as at h
  generalize q.entries = bs at h
  induction h with
  | nil => exact .none
  | @cons a b as bs hab _ ih =>
    obtain ⟨m, v⟩ := a
    obtain ⟨n, w⟩ := b
    obtain ⟨rfl, hvw⟩ := hab
    rw [Entries.lookup_cons, Entries.lookup_cons]
    split
    · exact .some hvw
    · exact ih

lemma isSome_get?_of_same {p q : Parameters} (h : p.same q = true) (name : String) :
    (p.get? name).isSome = (q.get? name).isSome := by
  have hget := get?_of_same h name
  generalize p.get? name = v at hget
  generalize q.get? name = w at hget
  cases hget <;> rfl

end Parameters

namespace Specification

section Size

variable {s : Specification}

lemma sizeOf_member_lt {m : UnionMember Specification} (h : m ∈ s.unions) :
    sizeOf m.query < sizeOf s := by
  have hm : sizeOf m.query < sizeOf m := by
    cases m
    simp only [UnionMember.mk.sizeOf_spec]
    omega
  have hs : sizeOf s.unions < sizeOf s := by
    cases s
    simp only [mk.sizeOf_spec]
    omega
  exact Nat.lt_trans hm (Nat.lt_trans (List.sizeOf_lt_of_mem h) hs)

lemma sizeOf_source_lt {d : DerivedTable Specification} (h : d ∈ s.source) :
    sizeOf d.query < sizeOf s := by
  have hd : sizeOf d.query < sizeOf d := by
    cases d
    simp only [DerivedTable.mk.sizeOf_spec]
    omega
  have hs : sizeOf s.source < sizeOf s := by
    cases s
    simp only [mk.sizeOf_spec]
    omega
  rw [Option.mem_def.mp h, Option.some.sizeOf_spec] at hs
  omega

lemma sizeOf_cte_lt {c : CommonTable Specification} (h : c ∈ s.ctes) :
    sizeOf c.query < sizeOf s := by
  have hc : sizeOf c.query < sizeOf c := by
    cases c
    simp only [CommonTable.mk.sizeOf_spec]
    omega
  have hs : sizeOf s.ctes < sizeOf s := by
    cases s
    simp only [mk.sizeOf_spec]
    omega
  exact Nat.lt_trans hc (Nat.lt_trans (List.sizeOf_lt_of_mem h) hs)

end Size

theorem inductionOn {motive : Specification → Prop} (s : Specification)
    (step : ∀ s : Specification, (∀ m ∈ s.unions, motive m.query) →
      (∀ d ∈ s.source, motive d.query) → (∀ c ∈ s.ctes, motive c.query) → motive s) :
    motive s := by
  refine step s ?_ ?_ ?_
  · exact fun m _ => inductionOn m.query step
  · exact fun d _ => inductionOn d.query step
  · exact fun c _ => inductionOn c.query step
termination_by sizeOf s
decreasing_by
  · exact sizeOf_member_lt ‹_›
  · exact sizeOf_source_lt ‹_›
  · exact sizeOf_cte_lt ‹_›

def SameMember (m n : UnionMember Specification) : Prop :=
  m.query.same n.query = true ∧ m.all = n.all

def SameTable (d e : DerivedTable Specification) : Prop :=
  d.query.same e.query = true ∧ d.label = e.label

def SameCte (c d : CommonTable Specification) : Prop :=
  c.name = d.name ∧ c.query.same d.query = true

structure Matches (s t : Specification) : Prop where
  table : s.table = t.table
  primaryKey : s.primaryKey = t.primaryKey
  projection : s.projection = t.projection
  distinct : s.distinct = t.distinct
  joins : s.joins = t.joins
  filter : s.filter = t.filter
  grouping : s.grouping = t.grouping
  groupFilter : s.groupFilter = t.groupFilter
  ordering : s.ordering = t.ordering
  skip : s.skip = t.skip
  take : s.take = t.take
  parameters : s.parameters.same t.parameters = true
  unions : List.Forall₂ SameMember s.unions t.unions
  source : Option.Rel SameTable s.source t.source
  ctes : List.Forall₂ SameCte s.ctes t.ctes

lemma sameMembers_iff {ms ns : List (UnionMember Specification)} :
    sameMembers ms ns = true ↔ List.Forall₂ SameMember ms ns := by
  induction ms generalizing ns with
  | nil => cases ns <;> simp [sameMembers]
  | cons m ms ih => cases ns <;> simp [sameMembers, SameMember, ih]

lemma sameSource_iff {d e : Option (DerivedTable Specification)} :
    sameSource d e = true ↔ Option.Rel SameTable d e := by
  cases d <;> cases e <;> simp [sameSource, SameTable]

lemma sameCtes_iff {cs ds : List (CommonTable Specification)} :
    sameCtes cs ds = true ↔ List.Forall₂ SameCte cs ds := by
  induction cs generalizing ds with
  | nil => cases ds <;> simp [sameCtes]
  | cons c cs ih => cases ds <;> simp [sameCtes, SameCte, ih]

lemma same_iff {s t : Specification} : s.same t = true ↔ Matches s t := by
  cases s
  cases t
  rw [same]
  simp only [Bool.and_eq_true, beq_iff_eq, sameMembers_iff, sameSource_iff, sameCtes_iff]
  constructor
  · rintro ⟨⟨⟨⟨⟨⟨⟨⟨⟨⟨⟨⟨⟨⟨_, _⟩, _⟩, _⟩, _⟩, _⟩, _⟩, _⟩, _⟩, _⟩, _⟩, _⟩, _⟩, _⟩, _⟩
    constructor <;> assumption
  · rintro ⟨_, _, _, _, _, _, _, _, _, _, _, _, _, _, _⟩
    simp_all

theorem same_symm {s t : Specification} (h : s.same t = true) : t.same s = true := by
  induction s using inductionOn generalizing t with
  | step s unions source ctes =>
    rw [same_iff] at h ⊢
    constructor
    case unions => exact forall₂_flip h.unions fun m hm _ h => ⟨unions m hm h.1, h.2.symm⟩
    case source => exact rel_flip h.source fun d hd _ h => ⟨source d hd h.1, h.2.symm⟩
    case ctes => exact forall₂_flip h.ctes fun c hc _ h => ⟨h.1.symm, ctes c hc h.2⟩
    case parameters => exact Parameters.same_symm h.parameters
    all_goals simp only [h.table, h.primaryKey, h.projection, h.distinct, h.joins, h.filter,
      h.grouping, h.groupFilter, h.ordering, h.skip, h.take]

theorem same_trans {s t u : Specification} (h : s.same t = true) (h' : t.same u = true) :
    s.same u = true := by
  induction s using inductionOn generalizing t u with
  | step s unions source ctes =>
    rw [same_iff] at h h' ⊢
    constructor
    case unions =>
      exact forall₂_trans h.unions h'.unions fun m hm _ _ h h' =>
        ⟨unions m hm h.1 h'.1, h.2.trans h'.2⟩
    case source =>
      exact rel_trans h.source h'.source fun d hd _ _ h h' =>
        ⟨source d hd h.1 h'.1, h.2.trans h'.2⟩
    case ctes =>
      exact forall₂_trans h.ctes h'.ctes fun c hc _ _ h h' =>
        ⟨h.1.trans h'.1, ctes c hc h.2 h'.2⟩
    case parameters => exact Parameters.same_trans h.parameters h'.parameters
    all_goals simp only [h.table, h.primaryKey, h.projection, h.distinct, h.joins, h.filter,
      h.grouping, h.groupFilter, h.ordering, h.skip, h.take, h'.table, h'.primaryKey,
      h'.projection, h'.distinct, h'.joins, h'.filter, h'.grouping, h'.groupFilter, h'.ordering,
      h'.skip, h'.take]

end Specification

end SelectQuery
