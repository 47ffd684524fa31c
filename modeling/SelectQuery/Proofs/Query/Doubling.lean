import Mathlib.Data.List.Pairwise
import SelectQuery.Proofs.Query.Rearranging
import SelectQuery.Proofs.Query.Tables
import SelectQuery.Proofs.Specification.Building

/-! A query that is equal to itself can be united with itself: its tables and its parameters are
all there already. -/

namespace SelectQuery.Specification

open Parameters (Agree Merged)

section Lists

variable {α : Type} {R : α → α → Prop} {as bs : List α}

lemma pairwise_append_of_subset (hsymm : ∀ {a b}, R a b → R b a) (hself : ∀ a ∈ as, R a a)
    (h : as.Pairwise R) (hsub : bs ⊆ as) : (as ++ bs).Pairwise R := by
  have hall := h.forall_of_forall_of_flip hself (h.imp hsymm)
  refine List.pairwise_of_forall_mem_list fun a ha b hb => hall ?_ ?_
  · exact (List.mem_append.mp ha).elim id fun ha => hsub ha
  · exact (List.mem_append.mp hb).elim id fun hb => hsub hb

end Lists

section Tables

variable {cs ds : List (CommonTable Specification)}

lemma firsts_append (cs ds : List (CommonTable Specification)) :
    firsts (cs ++ ds) = firsts cs ++ fresh cs ds := by
  induction cs with
  | nil => rw [fresh_nil, firsts_nil, List.nil_append, List.nil_append]
  | cons c cs ih =>
    have hfresh : (fresh cs ds).filter (fun d => !(d.name == c.name)) = fresh (c :: cs) ds := by
      rw [fresh, ← firsts_filter fun name => !(name == c.name), List.filter_filter, fresh]
      congr 2
      funext d
      rw [List.any_cons, Bool.not_or, BEq.comm]
    rw [List.cons_append, firsts_cons, ih, List.filter_append, hfresh, firsts_cons,
      List.cons_append]

lemma fresh_of_subset (h : ds ⊆ cs) : fresh cs ds = [] := by
  have hseen : ds.filter (fun d => !cs.any (·.name == d.name)) = [] := by
    rw [List.filter_eq_nil_iff]
    intro d hd
    simpa using ⟨d, h hd, rfl⟩
  rw [fresh, hseen, firsts_nil]

lemma names_firsts_nodup (cs : List (CommonTable Specification)) :
    ((firsts cs).map (·.name)).Nodup := by
  induction cs with
  | nil => simp
  | cons c cs ih =>
    rw [firsts_cons, List.map_cons, List.nodup_cons]
    constructor
    · simp
    · exact (List.filter_sublist.map _).nodup ih

end Tables

section Doubled

variable {s : Specification} {dialect : Dialect}

lemma tables_addUnion (s t : Specification) (all : Bool) :
    (s.addUnion t all).tables = s.tables ++ t.ctes := by
  simp [tables, addUnion]

lemma firsts_tables_doubled (s : Specification) (all : Bool) :
    firsts (s.addUnion s all).tables = firsts s.tables := by
  have hown : s.ctes ⊆ s.tables := List.subset_append_left _ _
  rw [tables_addUnion, firsts_append, fresh_of_subset hown, List.append_nil]

lemma bags_doubled (s : Specification) (all : Bool) :
    (s.addUnion s all).bags = s.bags ++ s.parameters :: s.sourceBags := by
  have hmembers : memberBags (s.addUnion s all).unions =
      memberBags s.unions ++ s.parameters :: s.sourceBags := by
    simp [memberBags, addUnion]
  rw [bags_eq, firsts_tables_doubled, hmembers, bags_eq, ← List.append_assoc]
  rfl

lemma member_bags_subset (s : Specification) : s.parameters :: s.sourceBags ⊆ s.bags := by
  rw [bags_eq]
  intro p hp
  rcases List.mem_cons.mp hp with rfl | hp
  · exact List.mem_append_left _ (List.mem_append_left _ List.mem_cons_self)
  · exact List.mem_append_left _ (List.mem_append_right _ hp)

lemma agree_self (hs : s.same s = true) : ∀ p ∈ s.bags, Agree p p := by
  rw [bags, List.forall_mem_map]
  intro q hq name v w hv hw
  have hself : q.same q = true := List.forall₂_same.mp (forall₂_emitted s s hs) q hq
  have hget := Parameters.get?_of_same (same_iff.mp hself).parameters name
  rw [hv] at hget hw
  cases hw
  cases hget
  assumption

lemma Compiles.doubled (h : Compiles s) (hs : s.same s = true) (all : Bool) :
    Compiles (s.addUnion s all) := by
  have hv := validate_ok_iff.mp h.valid
  obtain ⟨hproper, htables, hsource, hmembers⟩ := thorough_iff.mp h.thorough
  have htablesself := List.forall₂_same.mp (forall₂_tables hs)
  have hown : s.ctes ⊆ s.tables := List.subset_append_left _ _
  constructor
  · exact validate_ok_iff.mpr (hv.addUnion h.valid all)
  · refine thorough_iff.mpr ⟨⟨hproper.table, ?_, ?_⟩, ?_, hsource, ?_⟩
    · exact List.forall_mem_append.mpr ⟨hproper.members, by simpa using hproper.table⟩
    · rw [tables_addUnion]
      refine pairwise_append_of_subset ?_ (fun c hc _ => (htablesself c hc).2) hproper.tables hown
      exact fun hcd hname => same_symm (hcd hname.symm)
    · rw [tables_addUnion]
      exact List.forall_mem_append.mpr ⟨htables, fun c hc => htables c (hown hc)⟩
    · exact List.forall_mem_append.mpr ⟨hmembers, by simpa using hsource⟩
  · rw [bags_doubled]
    exact pairwise_append_of_subset Agree.symm (agree_self hs) h.agree (member_bags_subset s)

lemma merged_doubled {p q : Parameters} {all : Bool} (hp : Merged s.bags p)
    (hq : Merged (s.addUnion s all).bags q) : q = p := by
  refine NameMap.eq_of_get? fun name => ?_
  rw [hp.get?, hq.get?, bags_doubled, List.findSome?_append]
  cases hname : s.bags.findSome? (·.get? name) with
  | some v => rfl
  | none =>
    rw [List.findSome?_eq_none_iff] at hname
    rw [Option.none_or, List.findSome?_eq_none_iff]
    exact fun b hb => hname b (member_bags_subset s hb)

lemma text_doubled (dialect : Dialect) (s : Specification) (all : Bool) :
    (s.addUnion s all).text dialect =
      withText ((firsts s.tables).map fun c => definitionText c.name (c.query.text dialect)) ++
        s.coreText (s.origin dialect) ++
        String.join (s.unions.map fun m =>
          memberText m (m.query.coreText (m.query.origin dialect))) ++
        memberText ⟨s, all⟩ (s.coreText (s.origin dialect)) ++ s.closingText dialect := by
  have hcore : (s.addUnion s all).coreText ((s.addUnion s all).origin dialect) =
      s.coreText (s.origin dialect) := rfl
  have hclosing : (s.addUnion s all).closingText dialect = s.closingText dialect := rfl
  have hunions : (s.addUnion s all).unions = s.unions ++ [⟨s, all⟩] := rfl
  rw [text_eq, firsts_tables_doubled, hcore, hclosing, hunions, List.map_append, String.join_append,
    List.map_singleton, String.join_cons, String.join_nil, String.append_empty,
    ← String.append_assoc]

def Defines (dialect : Dialect) (c : CommonTable Specification) (definition : String) : Prop :=
  ∃ body, c.query.compile dialect .rows = .ok body ∧ definition = definitionText c.name body.sql

lemma Compiles.defines (h : Compiles s) (dialect : Dialect) :
    List.Forall₂ (Defines dialect) (firsts s.tables)
      ((firsts s.tables).map fun c => definitionText c.name (c.query.text dialect)) := by
  rw [List.forall₂_map_right_iff, List.forall₂_same]
  intro c hc
  obtain ⟨body, hbody, htext⟩ := (h.table hc).query dialect
  exact ⟨body, hbody, by rw [htext]⟩

theorem compile_rows_addUnion_self {query : Query} (hs : s.same s = true)
    (h : s.compile dialect .rows = .ok query) (all : Bool) :
    ∃ united definitions core members,
      (s.addUnion s all).compile dialect .rows = .ok united ∧
      united.parameters = query.parameters ∧
      List.Forall₂ (Defines dialect) (firsts s.tables) definitions ∧
      ((firsts s.tables).map (·.name)).Nodup ∧
      Core dialect s core ∧
      query.sql = withText definitions ++ core ++ members ++ s.closingText dialect ∧
      united.sql = withText definitions ++ core ++ members ++ memberText ⟨s, all⟩ core ++
        s.closingText dialect := by
  obtain ⟨hc, hquery⟩ := compiles_of_compile h
  obtain ⟨united, hunited, htext⟩ := (hc.doubled hs all).query dialect
  have hparameters := merged_doubled (merged_of_compile h) (merged_of_compile hunited)
  have hcore := core_origin (fun d hd => hc.source hd) dialect
  exact ⟨united, _, _, _, hunited, hparameters, hc.defines dialect, names_firsts_nodup _, hcore,
    hquery.trans (text_eq dialect s), htext.trans (text_doubled dialect s all)⟩

def gatheredOrders : Specification :=
  { table := "large", source := some ⟨largeOrders, "o"⟩, ordering := "total", skip := some 20
    take := some 10, unions := [⟨oldOrders, true⟩], ctes := [⟨"large", largeOrders⟩] }

theorem compile_rows_addUnion_self_gatheredOrders :
    gatheredOrders.same gatheredOrders = true ∧
      ∃ query united, gatheredOrders.compile .sqlServer .rows = .ok query ∧
        (gatheredOrders.addUnion gatheredOrders false).compile .sqlServer .rows = .ok united ∧
        united.parameters = query.parameters := by
  have hself : gatheredOrders.same gatheredOrders = true := by decide +kernel
  obtain ⟨query, hquery⟩ : ∃ query, gatheredOrders.compile .sqlServer .rows = .ok query :=
    exists_compile_of_isOk (by decide +kernel)
  obtain ⟨united, -, -, -, hunited, hparameters, -⟩ := compile_rows_addUnion_self hself hquery false
  exact ⟨hself, query, united, hquery, hunited, hparameters⟩

end Doubled

end SelectQuery.Specification
