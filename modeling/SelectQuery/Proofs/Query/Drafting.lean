import Mathlib.Data.List.Nodup
import SelectQuery.Proofs.Query.Emission
import SelectQuery.Query.Basic

namespace SelectQuery.Specification

open Parameters (Agree Merged)

def missingTable : Error := .invalidArgument "table_name" "specification has no table name"

inductive DraftError : Error → Prop
  | table : DraftError missingTable
  | cte (name : String) : DraftError (repeatedCte name)
  | conflict (name : String) : DraftError (.parameterConflict name)

/-- The outcome exists under a condition alone, and then has a property. -/
def Decides {α : Type} (outcome : Except Error α) (condition : Prop) (post : α → Prop) : Prop :=
  match outcome with
  | .ok a => condition ∧ post a
  | .error e => ¬ condition ∧ DraftError e

namespace Decides

variable {α β : Type} {outcome : Except Error α} {P Q : Prop} {post : α → Prop}

lemma bind {next : α → Except Error β} {then' : β → Prop} (h : Decides outcome P post)
    (hn : ∀ a, P → post a → Decides (next a) Q then') :
    Decides (outcome >>= next) (P ∧ Q) then' := by
  cases outcome with
  | error e => exact ⟨fun hp => h.1 hp.1, h.2⟩
  | ok a =>
    obtain ⟨hp, ha⟩ := h
    have hr := hn a hp ha
    change Decides (next a) (P ∧ Q) then'
    cases hb : next a with
    | error e =>
      rw [hb] at hr
      exact ⟨fun hq => hr.1 hq.2, hr.2⟩
    | ok b =>
      rw [hb] at hr
      exact ⟨⟨hp, hr.1⟩, hr.2⟩

lemma of_iff (h : Decides outcome P post) (hpq : P ↔ Q) : Decides outcome Q post := by
  cases outcome with
  | error e => exact ⟨fun hq => h.1 (hpq.mpr hq), h.2⟩
  | ok a => exact ⟨hpq.mp h.1, h.2⟩

end Decides

def bags (s : Specification) : List Parameters := s.emitted.map (·.parameters)

def sourceBags (s : Specification) : List Parameters := s.source.toList.flatMap (·.query.bags)

def memberBags (ms : List (UnionMember Specification)) : List Parameters :=
  ms.flatMap fun m => m.query.parameters :: m.query.sourceBags

def tableBags (cs : List (CommonTable Specification)) : List Parameters :=
  cs.flatMap (·.query.bags)

lemma bags_eq (s : Specification) :
    s.bags = s.parameters :: tableBags (firsts s.tables) ++ s.sourceBags ++ memberBags s.unions := by
  rw [bags, emitted_eq]
  simp only [List.map_append, List.map_cons, List.map_flatMap, tableBags, sourceBags, memberBags,
    bags]

def Drafted (s : Specification) : Prop :=
  Decides s.draft (Thorough s ∧ s.bags.Pairwise Agree) fun draft => Merged s.bags draft.parameters

section Steps

variable {as : List Parameters} {p : Parameters} {s : Specification}

lemma decides_requireTable (s : Specification) :
    Decides s.requireTable (Text.isBlank s.table = false) fun _ => True := by
  rw [requireTable]
  cases Text.isBlank s.table with
  | true => exact ⟨Bool.noConfusion, .table⟩
  | false => exact ⟨rfl, trivial⟩

lemma decides_merge {bs : List Parameters} {q : Parameters} (hp : Merged as p) (hq : Merged bs q) :
    Decides (merge p q) ((as ++ bs).Pairwise Agree) (Merged (as ++ bs)) := by
  rw [merge]
  rcases p.mergeNested_cases q with ⟨r, hr, ha, hget⟩ | ⟨name, r, hr, hclash, -⟩
  · rw [hr]
    exact ⟨(hp.agree_iff hq).mp ha, hp.append hq ha hget⟩
  · rw [hr]
    exact ⟨fun h => hclash.not_agree ((hp.agree_iff hq).mpr h), .conflict name⟩

lemma decides_core (hp : Merged as p) (ih : ∀ d ∈ s.source, Drafted d.query) :
    Decides (s.core (s.source.map fun d => (d, d.query.draft)) p)
      ((∀ d ∈ s.source, Thorough d.query) ∧ (as ++ s.sourceBags).Pairwise Agree)
      fun draft => Merged (as ++ s.sourceBags) draft.parameters := by
  cases hs : s.source with
  | none =>
    have hb : s.sourceBags = [] := by simp [sourceBags, hs]
    rw [hb, List.append_nil]
    exact ⟨⟨nofun, hp.agree⟩, hp⟩
  | some d =>
    have hb : s.sourceBags = d.query.bags := by simp [sourceBags, hs]
    rw [hb, Option.map_some, core]
    refine Decides.of_iff ((ih d hs).bind fun inner _ hinner =>
      (decides_merge hp hinner).bind (Q := True) fun merged _ hmerged => ⟨trivial, hmerged⟩) ?_
    constructor
    · rintro ⟨⟨ht, -⟩, ha, -⟩
      refine ⟨?_, ha⟩
      intro e he
      cases Option.some.inj he
      exact ht
    · rintro ⟨ht, ha⟩
      exact ⟨⟨ht d rfl, (List.pairwise_append.mp ha).2.1⟩, ha, trivial⟩

lemma memberBags_cons (m : UnionMember Specification) (ms : List (UnionMember Specification)) :
    as ++ memberBags (m :: ms) =
      as ++ [m.query.parameters] ++ m.query.sourceBags ++ memberBags ms := by
  simp [memberBags]

lemma decides_unionText {ms : List (UnionMember Specification)} (hp : Merged as p)
    (ih : ∀ m ∈ ms, ∀ d ∈ m.query.source, Drafted d.query) :
    Decides (unionText p (ms.map fun m => (m, m.query.outline)))
      (((∀ m ∈ ms, Text.isBlank m.query.table = false) ∧
        ∀ m ∈ ms, ∀ d ∈ m.query.source, Thorough d.query) ∧
        (as ++ memberBags ms).Pairwise Agree)
      fun draft => Merged (as ++ memberBags ms) draft.parameters := by
  induction ms generalizing p as with
  | nil =>
    have hb : as ++ memberBags [] = as := List.append_nil as
    rw [hb]
    exact ⟨⟨⟨nofun, nofun⟩, hp.agree⟩, hp⟩
  | cons m ms ihms =>
    obtain ⟨ihm, ihrest⟩ := List.forall_mem_cons.mp ih
    rw [memberBags_cons, List.map_cons, unionText, outline_source]
    refine Decides.of_iff ((decides_requireTable m.query).bind fun _ _ _ =>
      (decides_merge hp (Merged.single _)).bind fun _ _ hown =>
      (decides_core hown ihm).bind fun _ _ hcore =>
      (ihms hcore ihrest).bind (Q := True) fun _ _ hrest => ⟨trivial, hrest⟩) ?_
    simp only [List.forall_mem_cons]
    constructor
    · rintro ⟨hm, -, ⟨hd, -⟩, ⟨⟨hms, hds⟩, ha⟩, -⟩
      exact ⟨⟨⟨hm, hms⟩, hd, hds⟩, ha⟩
    · rintro ⟨⟨⟨hm, hms⟩, hd, hds⟩, ha⟩
      have hcore := (List.pairwise_append.mp ha).1
      exact ⟨hm, (List.pairwise_append.mp hcore).1, ⟨hd, hcore⟩, ⟨⟨hms, hds⟩, ha⟩, trivial⟩

end Steps

section Tables

variable {seen cs : List (CommonTable Specification)} {c : CommonTable Specification}

def fresh (seen cs : List (CommonTable Specification)) : List (CommonTable Specification) :=
  firsts (cs.filter fun c => !seen.any (·.name == c.name))

lemma fresh_cons_of_seen {f : CommonTable Specification} (hf : f ∈ seen) (hname : f.name = c.name) :
    fresh seen (c :: cs) = fresh seen cs := by
  have hany : seen.any (·.name == c.name) = true :=
    List.any_eq_true.mpr ⟨f, hf, beq_iff_eq.mpr hname⟩
  rw [fresh, List.filter_cons_of_neg (by simp [hany]), fresh]

lemma fresh_cons_of_new (hnew : ∀ f ∈ seen, f.name ≠ c.name) :
    fresh seen (c :: cs) = c :: fresh (seen ++ [c]) cs := by
  have hany : seen.any (·.name == c.name) = false := by
    rw [List.any_eq_false]
    intro f hf
    simpa using hnew f hf
  rw [fresh, List.filter_cons_of_pos (by simp [hany]), firsts_first, List.filter_filter, fresh]
  congr 3
  funext d
  rw [List.any_append, Bool.not_or, List.any_cons, List.any_nil, Bool.or_false, Bool.and_comm,
    BEq.comm]

lemma tableBags_cons (as : List Parameters) :
    as ++ tableBags (c :: cs) = as ++ c.query.bags ++ tableBags cs := by
  simp [tableBags]

structure Definable (seen cs : List (CommonTable Specification)) : Prop where
  seen : ∀ f ∈ seen, ∀ c ∈ cs, f.name = c.name → f.query.same c.query = true
  consistent : Consistent cs
  thorough : ∀ c ∈ cs, Thorough c.query

lemma definable_cons_of_seen {f : CommonTable Specification} (hf : f ∈ seen)
    (hname : f.name = c.name) (hdistinct : (seen.map (·.name)).Nodup)
    (hsame : f.query.same c.query = true) (hthorough : Thorough f.query) :
    Definable seen cs ↔ Definable seen (c :: cs) := by
  constructor
  · rintro ⟨hseen, hconsistent, hall⟩
    refine ⟨?_, .cons ?_ hconsistent, ?_⟩
    · intro g hg d hd hgd
      rcases List.mem_cons.mp hd with rfl | hd
      · have hgf : g = f := List.inj_on_of_nodup_map hdistinct hg hf (hgd.trans hname.symm)
        exact hgf ▸ hsame
      · exact hseen g hg d hd hgd
    · intro d hd hcd
      exact same_trans (same_symm hsame) (hseen f hf d hd (hname.trans hcd))
    · exact List.forall_mem_cons.mpr ⟨thorough_of_same hsame hthorough, hall⟩
  · rintro ⟨hseen, hconsistent, hall⟩
    exact ⟨fun g hg d hd => hseen g hg d (List.mem_cons_of_mem _ hd), hconsistent.of_cons,
      (List.forall_mem_cons.mp hall).2⟩

lemma definable_cons_of_new (hnew : ∀ f ∈ seen, f.name ≠ c.name) :
    (Thorough c.query ∧ Definable (seen ++ [c]) cs) ↔ Definable seen (c :: cs) := by
  constructor
  · rintro ⟨hc, hseen, hconsistent, hall⟩
    refine ⟨?_, .cons ?_ hconsistent, List.forall_mem_cons.mpr ⟨hc, hall⟩⟩
    · intro f hf d hd hfd
      rcases List.mem_cons.mp hd with rfl | hd
      · exact absurd hfd (hnew f hf)
      · exact hseen f (List.mem_append_left _ hf) d hd hfd
    · exact fun d hd => hseen c (by simp) d hd
  · rintro ⟨hseen, hconsistent, hall⟩
    obtain ⟨hc, hrest⟩ := List.forall_mem_cons.mp hall
    refine ⟨hc, ?_, hconsistent.of_cons, hrest⟩
    intro f hf d hd hfd
    rcases List.mem_append.mp hf with hf | hf
    · exact hseen f hf d (List.mem_cons_of_mem _ hd) hfd
    · cases List.mem_singleton.mp hf
      exact (List.pairwise_cons.mp hconsistent).1 d hd hfd

structure Written (seen : List (CommonTable Specification)) : Prop where
  distinct : (seen.map (·.name)).Nodup
  thorough : ∀ f ∈ seen, Thorough f.query

lemma written_nil : Written [] := ⟨.nil, nofun⟩

lemma Written.concat (h : Written seen) (hnew : ∀ f ∈ seen, f.name ≠ c.name)
    (hc : Thorough c.query) : Written (seen ++ [c]) := by
  constructor
  · rw [List.map_append, List.map_singleton, List.nodup_append]
    refine ⟨h.distinct, List.nodup_singleton _, ?_⟩
    intro name hname other hother
    obtain ⟨f, hf, rfl⟩ := List.mem_map.mp hname
    cases List.mem_singleton.mp hother
    exact hnew f hf
  · intro f hf
    rcases List.mem_append.mp hf with hf | hf
    · exact h.thorough f hf
    · cases List.mem_singleton.mp hf
      exact hc

lemma decides_definitions {as : List Parameters} {p : Parameters} (hp : Merged as p)
    (hseen : Written seen) (ih : ∀ c ∈ cs, Drafted c.query) :
    Decides (definitions seen p (cs.map fun c => (c, c.query.draft)))
      (Definable seen cs ∧ (as ++ tableBags (fresh seen cs)).Pairwise Agree)
      fun r => Merged (as ++ tableBags (fresh seen cs)) r.2 := by
  induction cs generalizing seen as p with
  | nil =>
    have hb : as ++ tableBags (fresh seen []) = as := List.append_nil as
    rw [hb]
    exact ⟨⟨⟨nofun, .nil, nofun⟩, hp.agree⟩, hp⟩
  | cons c cs ihcs =>
    obtain ⟨ihc, ihrest⟩ := List.forall_mem_cons.mp ih
    rw [List.map_cons, definitions]
    cases hfind : seen.find? (·.name == c.name) with
    | some f =>
      have hf := List.mem_of_find?_eq_some hfind
      have hname : f.name = c.name := by simpa using List.find?_some hfind
      rw [fresh_cons_of_seen hf hname]
      cases hsame : f.query.same c.query with
      | false =>
        simp only [hsame]
        refine ⟨?_, .cte c.name⟩
        rintro ⟨h, -⟩
        exact Bool.noConfusion (hsame.symm.trans (h.seen f hf c List.mem_cons_self hname))
      | true =>
        simp only [hsame, if_true]
        refine (ihcs hp hseen ihrest).of_iff (and_congr_left fun _ => ?_)
        exact definable_cons_of_seen hf hname hseen.distinct hsame (hseen.thorough f hf)
    | none =>
      have hnew : ∀ f ∈ seen, f.name ≠ c.name := by
        intro f hf
        simpa using List.find?_eq_none.mp hfind f hf
      rw [fresh_cons_of_new hnew, tableBags_cons, ← definable_cons_of_new hnew]
      refine Decides.of_iff (ihc.bind fun inner hinner hmerged =>
        (decides_merge hp hmerged).bind fun _ _ hall =>
        (ihcs hall (hseen.concat hnew hinner.1) ihrest).bind (Q := True)
          (Prod.forall.mpr fun _ _ _ hr => ⟨trivial, hr⟩)) ?_
      constructor
      · rintro ⟨⟨hc, -⟩, -, ⟨hrest, ha⟩, -⟩
        exact ⟨⟨hc, hrest⟩, ha⟩
      · rintro ⟨⟨hc, hrest⟩, ha⟩
        have hprefix := (List.pairwise_append.mp ha).1
        exact ⟨⟨hc, (List.pairwise_append.mp hprefix).2.1⟩, hprefix, ⟨hrest, ha⟩, trivial⟩

end Tables

lemma fresh_nil (cs : List (CommonTable Specification)) : fresh [] cs = firsts cs := by
  rw [fresh]
  congr 1
  exact List.filter_eq_self.mpr fun _ _ => rfl

lemma decides_tables {cs : List (CommonTable Specification)} {as : List Parameters}
    {p : Parameters} (hp : Merged as p) (ih : ∀ c ∈ cs, Drafted c.query) :
    Decides (definitions [] p (cs.map fun c => (c, c.query.draft)))
      ((Consistent cs ∧ ∀ c ∈ cs, Thorough c.query) ∧ (as ++ tableBags (firsts cs)).Pairwise Agree)
      fun r => Merged (as ++ tableBags (firsts cs)) r.2 := by
  rw [← fresh_nil]
  refine Decides.of_iff (decides_definitions hp written_nil ih) (and_congr_left fun _ => ?_)
  exact ⟨fun h => ⟨h.consistent, h.thorough⟩, fun h => ⟨nofun, h.1, h.2⟩⟩

theorem drafted (s : Specification) : Drafted s := by
  induction s using inductionOnTables with
  | step s htables hsource hmembers =>
    rw [Drafted, bags_eq, draft, assemble, outline_tables, outline_source, outline_members]
    refine Decides.of_iff ((decides_requireTable s).bind fun _ _ _ =>
      (decides_tables (Merged.single _) htables).bind (Prod.forall.mpr fun _ _ _ hdefined =>
      (decides_core hdefined hsource).bind fun _ _ hcore =>
      (decides_unionText hcore hmembers).bind (Q := True) fun _ _ hunited =>
        ⟨trivial, hunited⟩)) ?_
    rw [thorough_iff]
    constructor
    · rintro ⟨htable, ⟨⟨hconsistent, hall⟩, -⟩, ⟨hd, -⟩, ⟨⟨hms, hmds⟩, ha⟩, -⟩
      exact ⟨⟨⟨htable, hms, hconsistent⟩, hall, hd, hmds⟩, ha⟩
    · rintro ⟨⟨⟨htable, hms, hconsistent⟩, hall, hd, hmds⟩, ha⟩
      have hcore := (List.pairwise_append.mp ha).1
      exact ⟨htable, ⟨⟨hconsistent, hall⟩, (List.pairwise_append.mp hcore).1⟩, ⟨hd, hcore⟩,
        ⟨⟨hms, hmds⟩, ha⟩, trivial⟩

lemma compile_rows_eq_ok_iff {s : Specification} {dialect : Dialect} {query : Query} :
    s.compile dialect .rows = .ok query ↔ s.validate = .ok () ∧ ∃ draft, s.draft = .ok draft ∧
      query = ⟨Segment.renderAll dialect draft.segments, draft.parameters⟩ := by
  rw [compile]
  cases s.validate with
  | error e => exact ⟨nofun, fun h => by cases h.1⟩
  | ok _ =>
    change s.rowsQuery dialect = .ok query ↔ _
    rw [rowsQuery]
    cases s.draft with
    | error e => exact ⟨nofun, fun ⟨_, _, h, _⟩ => by cases h⟩
    | ok draft =>
      constructor
      · intro h
        cases h
        exact ⟨rfl, draft, rfl, rfl⟩
      · rintro ⟨-, _, h, rfl⟩
        cases h
        rfl

lemma compile_rows_eq_error {s : Specification} {dialect : Dialect} {e : Error}
    (hv : s.validate = .ok ()) (h : s.compile dialect .rows = .error e) : s.draft = .error e := by
  rw [compile, hv] at h
  change s.rowsQuery dialect = .error e at h
  rw [rowsQuery] at h
  cases hd : s.draft with
  | error e' =>
    rw [hd] at h
    cases h
    rfl
  | ok draft =>
    rw [hd] at h
    cases h

end SelectQuery.Specification
