import SelectQuery.Proofs.Query.Joining
import SelectQuery.Proofs.Query.Success

namespace SelectQuery.Specification

open Binding
open Parameters (Merged)

def fragments (dialect : Dialect) (s : Specification) : List (Fragment Specification) :=
  Binding.fragments (s.pieces dialect)

def occurrences (dialect : Dialect) (s : Specification) : List (Specification × String) :=
  (s.fragments dialect).flatMap fun f => (f.names dialect).map (f.owner, ·)

def ownValues (dialect : Dialect) (f : Fragment Specification) : List Value :=
  (f.names dialect).filterMap f.owner.parameters.get?

structure Sound (dialect : Dialect) (f : Fragment Specification) : Prop where
  closed : f.IsClosed dialect
  found : ∀ name ∈ f.names dialect, (f.owner.parameters.get? name).isSome = true

instance (dialect : Dialect) (f : Fragment Specification) : Decidable (Sound dialect f) :=
  decidable_of_iff
    (f.IsClosed dialect ∧
      ∀ name ∈ f.names dialect, (f.owner.parameters.get? name).isSome = true)
    ⟨fun ⟨hclosed, hfound⟩ => ⟨hclosed, hfound⟩, fun ⟨hclosed, hfound⟩ => ⟨hclosed, hfound⟩⟩

def ownValue? (occurrence : Specification × String) : Option Value :=
  occurrence.1.parameters.get? occurrence.2

def StandsFor (occurrence : Specification × String) (value : Option Value) : Prop :=
  ∃ own v, ownValue? occurrence = some own ∧ value = some v ∧ v.Alike own

variable {s : Specification} {dialect : Dialect}

lemma owner_mem_emitted_of_owned {o : Specification} {c : CommonTable Specification}
    (h : (o, c) ∈ s.ownedTables) : o ∈ s.emitted := by
  rcases List.mem_append.mp h with h | h
  · obtain ⟨_, -, he⟩ := List.mem_map.mp h
    cases he
    exact self_mem_emitted
  · obtain ⟨m, hm, h⟩ := List.mem_flatMap.mp h
    obtain ⟨_, -, he⟩ := List.mem_map.mp h
    cases he
    exact member_mem_emitted hm

lemma owner_mem_emitted : Every (fun f => f.owner ∈ s.emitted) (s.pieces dialect) := by
  induction s using inductionOnTables with
  | step s htables hsource hmembers =>
    refine every_pieces.mpr ⟨?_, ?_, ?_, every_clausePieces fun _ => self_mem_emitted⟩
    · rintro ⟨o, c⟩ hoc
      refine ⟨owner_mem_emitted_of_owned (mem_of_mem_eraseDupsBy hoc), ?_⟩
      intro f hf
      have hfirst : c ∈ firsts s.tables := by
        rw [← map_snd_firstOwned]
        exact List.mem_map.mpr ⟨(o, c), hoc, rfl⟩
      have howner := htables c (mem_of_mem_eraseDupsBy hfirst) f hf
      exact mem_emitted_of_table hfirst howner
    · refine every_corePieces (fun _ => self_mem_emitted) ?_
      rw [every_sourcePieces]
      intro d hd f hf
      have howner := hsource d hd f hf
      exact mem_emitted_of_source hd howner
    · intro m hm
      refine every_corePieces (fun _ => member_mem_emitted hm) ?_
      rw [every_sourcePieces]
      intro d hd f hf
      have howner := hmembers m hm d hd f hf
      exact mem_emitted_of_member hm hd howner

lemma names_compile {query : Query} (h : s.compile dialect .rows = .ok query)
    (hs : ∀ f ∈ s.fragments dialect, Sound dialect f) :
    query.sql = Piece.spell (s.pieces dialect) ∧
      names (tokens dialect query.sql.toList) = (s.occurrences dialect).map Prod.snd := by
  obtain ⟨-, draft, -, rfl⟩ := compile_rows_eq_layout.mp h
  have hspelt : Segment.renderAll dialect s.layout = Piece.spell (s.pieces dialect) :=
    spelt dialect s
  have hjoined : Joined dialect (s.pieces dialect) := joined_pieces fun f hf => (hs f hf).closed
  refine ⟨hspelt, ?_⟩
  rw [hspelt, names_tokens_spell hjoined, occurrences, List.map_flatMap, fragments]
  simp only [List.map_map, Function.comp_def, List.map_id']

lemma standsFor_get? {query : Query} (h : s.compile dialect .rows = .ok query)
    (hs : ∀ f ∈ s.fragments dialect, Sound dialect f) :
    ∀ o ∈ s.occurrences dialect, StandsFor o (query.parameters.get? o.2) := by
  obtain ⟨-, draft, hd, rfl⟩ := compile_rows_eq_ok_iff.mp h
  have hmerged : Merged s.bags draft.parameters := (draft_ok hd).2
  intro o ho
  obtain ⟨f, hf, ho⟩ := List.mem_flatMap.mp ho
  obtain ⟨name, hname, rfl⟩ := List.mem_map.mp ho
  obtain ⟨own, hown⟩ := Option.isSome_iff_exists.mp ((hs f hf).found name hname)
  have hbag : f.owner.parameters ∈ s.bags := List.mem_map.mpr ⟨_, owner_mem_emitted f hf, rfl⟩
  obtain ⟨v, hv, halike⟩ := hmerged.alike hbag hown
  exact ⟨own, v, hown, hv, halike⟩

lemma alike_of_standsFor {os : List (Specification × String)} {values : List Value}
    (h : List.Forall₂ StandsFor os (values.map some)) :
    List.Forall₂ Value.Alike values (os.filterMap ownValue?) := by
  induction os generalizing values with
  | nil =>
    cases values with
    | nil => exact .nil
    | cons v values => cases h
  | cons o os ih =>
    cases values with
    | nil => cases h
    | cons v values =>
      obtain ⟨⟨own, w, hown, hv, halike⟩, hrest⟩ := List.forall₂_cons.mp h
      cases Option.some.inj hv
      rw [List.filterMap_cons_some hown]
      exact .cons halike (ih hrest)

theorem bind_compile_rows {query : Query} (h : s.compile dialect .rows = .ok query)
    (hs : ∀ f ∈ s.fragments dialect, Sound dialect f) :
    query.sql = Piece.spell (s.pieces dialect) ∧
    names (tokens dialect query.sql.toList) = (s.occurrences dialect).map Prod.snd ∧
    ∃ values, bind query.sql query.parameters dialect =
        .ok ⟨rewriting dialect (tokens dialect query.sql.toList), values⟩ ∧
      List.Forall₂ StandsFor (s.occurrences dialect)
        (occurrenceValues dialect (names (tokens dialect query.sql.toList)) values) ∧
      (dialect.sharesValues = false → List.Forall₂ Value.Alike values
        ((s.fragments dialect).flatMap (ownValues dialect))) := by
  obtain ⟨hsql, hnames⟩ := names_compile h hs
  have hvalue := standsFor_get? h hs
  refine ⟨hsql, hnames, ?_⟩
  have hfound : (names (tokens dialect query.sql.toList)).find? (lacks query.parameters) = none := by
    rw [List.find?_eq_none, hnames, List.forall_mem_map]
    intro o ho
    obtain ⟨_, v, -, hv, -⟩ := hvalue o ho
    simp [lacks, hv]
  obtain ⟨values, hbind, hvalues⟩ := bind_ok hfound
  have hstands : List.Forall₂ StandsFor (s.occurrences dialect)
      (occurrenceValues dialect (names (tokens dialect query.sql.toList)) values) := by
    rw [occurrenceValues_eq hvalues, hnames, List.map_map, List.forall₂_map_right_iff,
      List.forall₂_same]
    exact hvalue
  refine ⟨values, hbind, hstands, ?_⟩
  intro hshares
  rw [occurrenceValues, hshares] at hstands
  have halike := alike_of_standsFor hstands
  rw [occurrences, List.filterMap_flatMap] at halike
  simp only [List.filterMap_map] at halike
  exact halike

theorem bind_compile_rows_namedOrders :
    (∀ f ∈ namedOrders.fragments .sqlite, Sound .sqlite f) ∧
      ∃ query values, namedOrders.compile .sqlite .rows = .ok query ∧
        names (tokens .sqlite query.sql.toList) = ["Floor", "Name", "Floor"] ∧
        bind query.sql query.parameters .sqlite =
          .ok ⟨rewriting .sqlite (tokens .sqlite query.sql.toList), values⟩ ∧
        List.Forall₂ Value.Alike values
          ((namedOrders.fragments .sqlite).flatMap (ownValues .sqlite)) := by
  have hs : ∀ f ∈ namedOrders.fragments .sqlite, Sound .sqlite f := by decide +kernel
  have hnames : (namedOrders.occurrences .sqlite).map Prod.snd = ["Floor", "Name", "Floor"] := by
    decide +kernel
  obtain ⟨query, hq⟩ := exists_compile_namedOrders .sqlite
  obtain ⟨-, hread, values, hbind, -, hvalues⟩ := bind_compile_rows hq hs
  exact ⟨hs, query, values, hq, hread.trans hnames, hbind, hvalues rfl⟩

end SelectQuery.Specification
