import SelectQuery.Proofs.Binary64.Rounding
import SelectQuery.Proofs.Parameters.Names
import SelectQuery.Proofs.Text.Basic
import SelectQuery.Proofs.Value.Storage

/-! Parameters that a document lists keep the names that it spells. Only names in normal form are
names that calls store. -/

namespace SelectQuery

namespace Entries

variable {α β : Type} (f : α → β)

lemma map_insert (name : String) (value : α) (entries : List (String × α)) :
    (insert name value entries).map (fun entry => (entry.1, f entry.2)) =
      insert name (f value) (entries.map fun entry => (entry.1, f entry.2)) := by
  induction entries with
  | nil => rfl
  | cons entry entries ih =>
    rw [insert, List.map_cons, insert]
    split
    · rfl
    · split
      · rfl
      · rw [List.map_cons, ih]

lemma mem_fst_foldl_insert {name : String} {entries sorted : List (String × α)} :
    name ∈ (entries.foldl (fun sorted entry => insert entry.1 entry.2 sorted) sorted).map Prod.fst ↔
      name ∈ sorted.map Prod.fst ∨ name ∈ entries.map Prod.fst := by
  induction entries generalizing sorted with
  | nil => simp
  | cons entry entries ih =>
    rw [List.foldl_cons, ih, mem_fst_insert, List.map_cons, List.mem_cons, or_assoc, or_left_comm]

lemma mem_fst_ofList {name : String} {entries : List (String × α)} :
    name ∈ (ofList entries).map Prod.fst ↔ name ∈ entries.map Prod.fst :=
  mem_fst_foldl_insert.trans (or_iff_right List.not_mem_nil)

lemma map_ofList (entries : List (String × α)) :
    (ofList entries).map (fun entry => (entry.1, f entry.2)) =
      ofList (entries.map fun entry => (entry.1, f entry.2)) := by
  rw [ofList, ofList, List.foldl_map]
  exact (List.foldl_hom _ fun sorted entry =>
    (map_insert f entry.1 entry.2 sorted).symm).symm

end Entries

namespace Value

lemma exists_settle? {j : Json} {v : Value} (h : read? j = some v) :
    ∃ k, j.settle? = some k ∧ ofJson k = v.restored := by
  cases j with
  | null | bool b | string s =>
    cases h
    exact ⟨_, rfl, rfl⟩
  | int i =>
    rw [read?_int] at h
    cases h
    refine ⟨.int i, rfl, ?_⟩
    rw [ofJson]
    split
    · rfl
    · next hlong =>
      have hlow : 0 ≤ i.val := by omega
      rw [restored, (Binary64.nearest_ofInt hlow i.2.2).finite, if_pos rfl]
  | float x =>
    cases h
    refine ⟨if x.isFinite then .float x else .null, rfl, ?_⟩
    rw [restored]
    split <;> rfl
  | array items =>
    obtain ⟨k, hk, heq⟩ := Option.map_eq_some_iff.mp
      (h : (Json.settle? (.array items)).map Value.json = some v)
    cases heq
    obtain ⟨ks, -, rfl⟩ := Option.map_eq_some_iff.mp hk
    exact ⟨_, hk, rfl⟩
  | object members =>
    obtain ⟨k, hk, heq⟩ := Option.map_eq_some_iff.mp
      (h : (Json.settle? (.object members)).map Value.json = some v)
    cases heq
    obtain ⟨ks, -, rfl⟩ := Option.map_eq_some_iff.mp hk
    exact ⟨_, hk, rfl⟩
  | void => cases h

end Value

namespace Parameters

structure IsNormal (name : String) : Prop where
  text : Text.isBlank name = false
  fixed : normalName name = name

section Calls

variable {p : Parameters}

lemma addAll_of_isNormal {members : List (String × Json)} (h : ∀ m ∈ members, IsNormal m.1) :
    ∃ q, p.addAll members = .ok q ∧
      q.entries = (members.map fun m => (m.1, Value.ofJson m.2)).foldl
        (fun sorted entry => Entries.insert entry.1 entry.2 sorted) p.entries := by
  induction members generalizing p with
  | nil => exact ⟨p, rfl, rfl⟩
  | cons m members ih =>
    obtain ⟨hfirst, hrest⟩ := List.forall_mem_cons.mp h
    have hadd : p.add m.1 (.ofJson m.2) = .ok (p.insert m.1 (.ofJson m.2)) := by
      rw [add_ok_iff, hfirst.fixed]
      exact ⟨hfirst.text, rfl⟩
    rw [addAll, hadd]
    exact ih hrest

lemma mergeObject_of_isNormal {members : List (String × Json)} (hordered : Entries.Ordered members)
    (h : ∀ m ∈ members, IsNormal m.1) : ∃ q, mergeObject .empty (.object members) = .ok q ∧
      q.entries = members.map fun m => (m.1, Value.ofJson m.2) := by
  obtain ⟨q, hq, hentries⟩ := addAll_of_isNormal (p := .empty) h
  refine ⟨q, ?_, hentries.trans (Entries.ofList_of_ordered (List.pairwise_map.mpr hordered))⟩
  rw [mergeObject, Entries.ofList_of_ordered hordered, hq]

lemma exists_settleMembers? {members : List (String × Json)} {entries : List (String × Value)}
    (h : readMembers? members = some entries) : ∃ kept, Json.settleMembers? members = some kept ∧
      (kept.map fun m => (m.1, Value.ofJson m.2)) =
        entries.map fun entry => (entry.1, entry.2.restored) := by
  induction members generalizing entries with
  | nil =>
    cases h
    exact ⟨[], rfl, rfl⟩
  | cons m members ih =>
    obtain ⟨name, j⟩ := m
    simp only [readMembers?, Option.bind_eq_bind, Option.bind_eq_some_iff] at h
    obtain ⟨value, hvalue, rest, hrest, heq⟩ := h
    cases heq
    obtain ⟨k, hk, hvalue⟩ := Value.exists_settle? hvalue
    obtain ⟨kept, hkept, hentries⟩ := ih hrest
    refine ⟨(name, k) :: kept, ?_, ?_⟩
    · rw [Json.settleMembers?, hk, hkept]
      rfl
    · rw [List.map_cons, List.map_cons, hvalue, hentries]

lemma map_fst_of_readMembers? {members : List (String × Json)} {entries : List (String × Value)}
    (h : readMembers? members = some entries) :
    entries.map Prod.fst = members.map Prod.fst := by
  obtain ⟨kept, hkept, hentries⟩ := exists_settleMembers? h
  have hnames := congrArg (List.map Prod.fst) hentries
  rw [List.map_map, List.map_map] at hnames
  rw [← Json.settleMembers?_names hkept]
  exact hnames.symm

end Calls

structure Listed (members : List (String × Json)) (p : Parameters) : Prop where
  names : ∀ name, name ∈ p.names ↔ name ∈ members.map Prod.fst
  found : ∀ entry ∈ p.entries, normalName entry.1 = entry.1 →
    p.value? entry.1 = some entry.2 ∧ p.value? ("@" ++ entry.1) = some entry.2
  served : ∀ name, Text.IsIdentifier name.toList →
    ((p.value? name).isSome = true ↔ name ∈ members.map Prod.fst)
  called : (∀ m ∈ members, IsNormal m.1) → ∃ kept, (Json.object members).settle? = some kept ∧
    mergeObject .empty kept = .ok (p.map Value.restored)

lemma eq_of_entries {p q : Parameters} (h : p.entries = q.entries) : p = q := by
  obtain ⟨entries, hp⟩ := p
  obtain ⟨others, hq⟩ := q
  cases h
  rfl

lemma listed_of_readMembers? {members : List (String × Json)}
    {entries : List (String × Value)} (h : readMembers? members = some entries) :
    Listed members (.ofList entries) := by
  have hnames : ∀ name, name ∈ (NameMap.ofList entries).names ↔ name ∈ members.map Prod.fst := by
    intro name
    rw [← map_fst_of_readMembers? h]
    exact Entries.mem_fst_ofList
  refine ⟨hnames, ?_, ?_, ?_⟩
  · intro entry hentry hfixed
    have htrimmed : Text.Trimmed entry.1.toList := hfixed ▸ trimmed_normalName entry.1
    have hget := NameMap.get?_of_mem hentry
    rw [value?, value?, normalName_mark htrimmed, hfixed]
    exact ⟨hget, hget⟩
  · intro name hname
    have hvalue := value?_of_inIdentifier (.ofList entries) (Text.inIdentifier_of_isIdentifier hname)
    rw [String.ofList_toList] at hvalue
    rw [hvalue, ← hnames]
    exact Entries.mem_fst_iff.symm
  · intro hnormal
    obtain ⟨kept, hkept, hvalues⟩ := exists_settleMembers? h
    have hsorted : ∀ m ∈ Entries.ofList kept, IsNormal m.1 := by
      intro m hm
      have hname : m.1 ∈ members.map Prod.fst := by
        rw [← Json.settleMembers?_names hkept]
        exact List.mem_map_of_mem (Entries.mem_ofList hm)
      obtain ⟨n, hn, hnm⟩ := List.mem_map.mp hname
      exact hnm ▸ hnormal n hn
    obtain ⟨q, hq, hentries⟩ := mergeObject_of_isNormal (Entries.ordered_ofList kept) hsorted
    refine ⟨.object (Entries.ofList kept), ?_, ?_⟩
    · rw [Json.settle?, hkept]
      rfl
    · refine hq.trans (congrArg Except.ok (eq_of_entries ?_))
      calc q.entries
        _ = (Entries.ofList kept).map fun m => (m.1, Value.ofJson m.2) := hentries
        _ = Entries.ofList (entries.map fun entry => (entry.1, entry.2.restored)) := by
          rw [Entries.map_ofList, hvalues]
        _ = (Entries.ofList entries).map fun entry => (entry.1, entry.2.restored) :=
          (Entries.map_ofList Value.restored entries).symm

end Parameters

end SelectQuery
