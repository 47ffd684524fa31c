import SelectQuery.Proofs.Binding.Rewriting
import SelectQuery.Proofs.Parameters.Reading
import SelectQuery.Proofs.Query.Layout
import SelectQuery.Proofs.Query.Success
import SelectQuery.Proofs.Specification.Building

/-! Every query in a document is loaded with the parameters that its own part of the document
lists, and refers to them by the names that are spelled there. -/

namespace SelectQuery

namespace Json

inductive Inside : Json → Json → Prop
  | self {j} : Inside j j
  | item {js j part} : j ∈ js → Inside j part → Inside (.array js) part
  | member {ms name j part} : (name, j) ∈ ms → Inside j part → Inside (.object ms) part

lemma Inside.trans {j k l : Json} (hk : Inside j k) (hl : Inside k l) : Inside j l := by
  induction hk with
  | self => exact hl
  | item hj _ ih => exact .item hj (ih hl)
  | member hj _ ih => exact .member hj (ih hl)

lemma inside_of_lookup {j k : Json} {names : List String} {fields : List (String × Json)}
    {name : String} (hfields : j.fields? names = some fields) (hk : fields.lookup name = some k) :
    Inside j k := by
  obtain ⟨before, after, hsplit, -⟩ := List.lookup_eq_some_iff.mp hk
  have hmem : (name, k) ∈ fields := by simp [hsplit]
  cases j with
  | object members =>
    rw [fields?] at hfields
    split at hfields
    · cases hfields
      exact .member (List.mem_of_mem_filter hmem) .self
    · cases hfields
  | array items =>
    rw [fields?] at hfields
    split at hfields
    · cases hfields
      exact .item (List.of_mem_zip hmem).2 .self
    · cases hfields
  | null | bool b | int i | float x | string s | void => cases hfields

section Read

variable {α : Type} {read? : Json → Option α}

lemma exists_item_of_mapM {items : List Json} {as : List α} (h : items.mapM read? = some as) :
    ∀ a ∈ as, ∃ k ∈ items, read? k = some a := by
  induction items generalizing as with
  | nil =>
    cases h
    exact nofun
  | cons item items ih =>
    rw [List.mapM_cons] at h
    obtain ⟨first, hfirst, h⟩ := Option.bind_eq_some_iff.mp h
    obtain ⟨rest, hrest, h⟩ := Option.bind_eq_some_iff.mp h
    cases h
    intro a ha
    rcases List.mem_cons.mp ha with rfl | ha
    · exact ⟨item, List.mem_cons_self, hfirst⟩
    · obtain ⟨k, hk, hread⟩ := ih hrest a ha
      exact ⟨k, List.mem_cons_of_mem _ hk, hread⟩

variable {j : Json} {names : List String} {fields : List (String × Json)} {name : String}

lemma inside_of_required {a : α} (hfields : j.fields? names = some fields)
    (h : required fields name read? = some a) : ∃ k, Inside j k ∧ read? k = some a := by
  obtain ⟨k, hk, hread⟩ := Option.bind_eq_some_iff.mp h
  exact ⟨k, inside_of_lookup hfields hk, hread⟩

lemma inside_of_nullable {a : Option α} (hfields : j.fields? names = some fields)
    (h : field fields name none (nullable read?) = some a) :
    ∀ b ∈ a, ∃ k, Inside j k ∧ read? k = some b := by
  intro b hb
  cases hb
  rw [field] at h
  cases hk : fields.lookup name with
  | none =>
    rw [hk] at h
    cases h
  | some k =>
    rw [hk] at h
    dsimp only [nullable] at h
    split at h
    · cases h
    · obtain ⟨c, hc, heq⟩ := Option.map_eq_some_iff.mp h
      cases heq
      exact ⟨k, inside_of_lookup hfields hk, hc⟩

lemma inside_of_list {as : List α} (hfields : j.fields? names = some fields)
    (h : field fields name [] (list read?) = some as) :
    ∀ a ∈ as, ∃ k, Inside j k ∧ read? k = some a := by
  intro a ha
  rw [field] at h
  cases hk : fields.lookup name with
  | none =>
    rw [hk] at h
    cases h
    cases ha
  | some k =>
    rw [hk] at h
    obtain ⟨items, hitems, hread⟩ := Option.bind_eq_some_iff.mp h
    cases k with
    | array js =>
      cases hitems
      obtain ⟨item, hitem, hitemRead⟩ := exists_item_of_mapM hread a ha
      exact ⟨item, (inside_of_lookup hfields hk).trans (.item hitem .self), hitemRead⟩
    | null | bool b | int i | float x | string s | object ms | void => cases hitems

end Read

end Json

namespace Specification

structure ReadFrom (read? : Json → Option Specification) (fields : List (String × Json))
    (s : Specification) : Prop where
  parameters : Json.field fields "parameters" .empty Parameters.read? = some s.parameters
  unions : Json.field fields "unions" [] (Json.list (readMember? read?)) = some s.unions
  source : Json.field fields "from_subquery" none (Json.nullable (readSource? read?)) =
    some s.source
  ctes : Json.field fields "ctes" [] (Json.list (readCte? read?)) = some s.ctes

section Reading

variable {read? : Json → Option Specification} {j : Json} {s t : Specification}

lemma readFrom_of_readLevel? (h : readLevel? read? j = some s) :
    ∃ fields, j.fields? fieldNames = some fields ∧ ReadFrom read? fields s := by
  obtain ⟨fields, hfields, h⟩ := Option.bind_eq_some_iff.mp h
  -- clauses and paging
  iterate 11 obtain ⟨_, -, h⟩ := Option.bind_eq_some_iff.mp h
  obtain ⟨parameters, hparameters, h⟩ := Option.bind_eq_some_iff.mp h
  obtain ⟨unions, hunions, h⟩ := Option.bind_eq_some_iff.mp h
  obtain ⟨source, hsource, h⟩ := Option.bind_eq_some_iff.mp h
  obtain ⟨ctes, hctes, h⟩ := Option.bind_eq_some_iff.mp h
  cases h
  exact ⟨fields, hfields, hparameters, hunions, hsource, hctes⟩

lemma inside_of_readMember? {m : UnionMember Specification} (h : readMember? read? j = some m) :
    ∃ k, Json.Inside j k ∧ read? k = some m.query := by
  simp only [readMember?, Option.bind_eq_bind, Option.bind_eq_some_iff] at h
  obtain ⟨fields, hfields, query, hquery, all, -, hm⟩ := h
  cases hm
  exact Json.inside_of_required hfields hquery

lemma inside_of_readSource? {d : DerivedTable Specification}
    (h : readSource? read? j = some d) : ∃ k, Json.Inside j k ∧ read? k = some d.query := by
  simp only [readSource?, Option.bind_eq_bind, Option.bind_eq_some_iff] at h
  obtain ⟨fields, hfields, query, hquery, label, -, hd⟩ := h
  cases hd
  exact Json.inside_of_required hfields hquery

lemma inside_of_readCte? {c : CommonTable Specification} (h : readCte? read? j = some c) :
    ∃ k, Json.Inside j k ∧ read? k = some c.query := by
  simp only [readCte?, Option.bind_eq_bind, Option.bind_eq_some_iff] at h
  obtain ⟨fields, hfields, name, -, query, hquery, hc⟩ := h
  cases hc
  exact Json.inside_of_required hfields hquery

lemma inside_of_mem_parts {q : Specification} (h : readLevel? read? j = some s)
    (hq : q ∈ s.parts) : ∃ k, Json.Inside j k ∧ read? k = some q := by
  obtain ⟨fields, hfields, hread⟩ := readFrom_of_readLevel? h
  rcases mem_parts.mp hq with ⟨m, hm, rfl⟩ | ⟨d, hd, rfl⟩ | ⟨c, hc, rfl⟩
  · obtain ⟨k, hk, hmember⟩ := Json.inside_of_list hfields hread.unions m hm
    obtain ⟨l, hl, hquery⟩ := inside_of_readMember? hmember
    exact ⟨l, hk.trans hl, hquery⟩
  · obtain ⟨k, hk, hsource⟩ := Json.inside_of_nullable hfields hread.source d hd
    obtain ⟨l, hl, hquery⟩ := inside_of_readSource? hsource
    exact ⟨l, hk.trans hl, hquery⟩
  · obtain ⟨k, hk, hcte⟩ := Json.inside_of_list hfields hread.ctes c hc
    obtain ⟨l, hl, hquery⟩ := inside_of_readCte? hcte
    exact ⟨l, hk.trans hl, hquery⟩

lemma Nested.read {levels : Nat} (hn : Nested s t) (h : readLevels? levels j = some s) :
    ∃ below part, Json.Inside j part ∧ readLevel? (readLevels? below) part = some t := by
  induction hn generalizing levels j with
  | self =>
    cases levels with
    | zero => cases h
    | succ levels => exact ⟨levels, j, .self, h⟩
  | part hq _ ih =>
    cases levels with
    | zero => cases h
    | succ levels =>
      obtain ⟨k, hk, hread⟩ := inside_of_mem_parts h hq
      obtain ⟨below, part, hpart, ht⟩ := ih hread
      exact ⟨below, part, hk.trans hpart, ht⟩

def listedParameters? (j : Json) : Option (List (String × Json)) := do
  Json.field (← j.fields? fieldNames) "parameters" [] Json.asObject?

lemma listed_of_readLevel? (h : readLevel? read? j = some s) :
    ∃ members, listedParameters? j = some members ∧ Parameters.Listed members s.parameters := by
  obtain ⟨fields, hfields, hread⟩ := readFrom_of_readLevel? h
  have hparameters := hread.parameters
  rw [listedParameters?, hfields]
  change ∃ members, Json.field fields "parameters" [] Json.asObject? = some members ∧ _
  rw [Json.field] at hparameters ⊢
  cases hk : fields.lookup "parameters" with
  | none =>
    rw [hk] at hparameters
    rw [← Option.some.inj hparameters]
    have hnone : Parameters.Listed [] (.ofList []) := Parameters.listed_of_readMembers? rfl
    exact ⟨[], rfl, hnone⟩
  | some k =>
    rw [hk] at hparameters
    obtain ⟨entries, hentries, heq⟩ := Option.map_eq_some_iff.mp hparameters
    obtain ⟨members, hmembers, hread⟩ := Option.bind_eq_some_iff.mp hentries
    rw [← heq]
    exact ⟨members, hmembers, Parameters.listed_of_readMembers? hread⟩

end Reading

section Serving

variable {s : Specification} {dialect : Dialect} {query : Query} {name : String} {value : Value}

lemma get?_of_compile {mode : Mode} (h : s.compile dialect mode = .ok query)
    (hv : s.parameters.get? name = some value) : query.parameters.get? name = some value := by
  have hmap := map_parameters_compile s dialect mode
  rw [h] at hmap
  obtain ⟨_, -, hmap⟩ := bind_eq_ok hmap.symm
  cases mode with
  | rows =>
    cases hd : s.draft with
    | error e =>
      rw [hd] at hmap
      cases hmap
    | ok draft =>
      rw [hd] at hmap
      have hparameters : draft.parameters = query.parameters := Except.ok.inj hmap
      rw [← hparameters, (draft_ok hd).2.get?, bags, List.findSome?_map, emitted_eq,
        List.append_assoc, List.cons_append, List.findSome?_cons, Function.comp_apply, hv]
  | count | existence =>
    cases ht : s.requireTable with
    | error e =>
      rw [ht] at hmap
      cases hmap
    | ok _ =>
      rw [ht] at hmap
      have hparameters : s.parameters = query.parameters := Except.ok.inj hmap
      rw [← hparameters, hv]

lemma bind_ne_missing {sql : String} {p : Parameters} (h : p.get? name = some value) :
    Binding.bind sql p dialect ≠ .error (.missingParameter name) := by
  intro hbind
  cases hfind : (Binding.names (Binding.tokens dialect sql.toList)).find? (Binding.lacks p) with
  | none =>
    obtain ⟨values, hok, -⟩ := Binding.bind_ok hfind
    cases hok.symm.trans hbind
  | some n =>
    cases (Binding.bind_missing hfind).symm.trans hbind
    have hlacks := List.find?_some hfind
    rw [Binding.lacks, h] at hlacks
    cases hlacks

end Serving

theorem parameters_of_load {j : Json} {s : Specification} (h : load j = .ok s) :
    (∀ t, Nested s t → ∃ part members, Json.Inside j part ∧
      listedParameters? part = some members ∧ Parameters.Listed members t.parameters) ∧
    ∃ members, listedParameters? j = some members ∧ Parameters.Listed members s.parameters ∧
      ∀ name ∈ members.map Prod.fst, Text.IsIdentifier name.toList →
        ∃ value, s.parameters.get? name = some value ∧
          ∀ dialect mode query, s.compile dialect mode = .ok query →
            query.parameters.value? name = some value ∧
              Binding.bind query.sql query.parameters dialect ≠
                .error (.missingParameter name) := by
  have hread : readLevels? (j.nesting + 1) j = some s := (load_eq_ok h).1
  constructor
  · intro t ht
    obtain ⟨below, part, hpart, hlevel⟩ := ht.read hread
    obtain ⟨members, hmembers, hlisted⟩ := listed_of_readLevel? hlevel
    exact ⟨part, members, hpart, hmembers, hlisted⟩
  · obtain ⟨members, hmembers, hlisted⟩ := listed_of_readLevel? hread
    refine ⟨members, hmembers, hlisted, fun name hname hidentifier => ?_⟩
    have hstored : (s.parameters.get? name).isSome = true :=
      Entries.mem_fst_iff.mp ((hlisted.names name).mpr hname)
    obtain ⟨value, hvalue⟩ := Option.isSome_iff_exists.mp hstored
    refine ⟨value, hvalue, fun dialect mode query hquery => ?_⟩
    have hget := get?_of_compile hquery hvalue
    have hserved := query.parameters.value?_of_inIdentifier
      (Text.inIdentifier_of_isIdentifier hidentifier)
    rw [String.ofList_toList, hget] at hserved
    exact ⟨hserved, bind_ne_missing hget⟩

def namingDocument (name : String) : Json :=
  .object [("table_name", .string "t"), ("where_clause", .string "x = @a"),
    ("parameters", .object [(name, .int ⟨1, by decide⟩)])]

def namingQuery (name : String) : Specification :=
  { table := "t", filter := "x = @a", parameters := NameMap.empty.insert name (.int 1) }

lemma load_namingDocument (name : String) :
    load (namingDocument name) = .ok (namingQuery name) := rfl

theorem load_namingDocument_marked :
    Parameters.mergeObject .empty (.object [("@a", .int ⟨1, by decide⟩)]) =
      .ok (NameMap.empty.insert "a" (.int 1)) ∧
    ∃ s query, load (namingDocument "@a") = .ok s ∧
      ("@a", .int 1) ∈ s.parameters.entries ∧ s.parameters.value? "@a" = none ∧
      s.compile .sqlite .rows = .ok query ∧
      Binding.bind query.sql query.parameters .sqlite = .error (.missingParameter "a") := by
  have hcompile : (namingQuery "@a").compile .sqlite .rows =
    .ok ⟨"SELECT * FROM t WHERE x = @a", (namingQuery "@a").parameters⟩ := by rfl
  refine ⟨rfl, _, _, load_namingDocument "@a", List.mem_cons_self, rfl, hcompile, ?_⟩
  exact Binding.bind_missing (by decide +kernel)

theorem parameters_of_load_namingDocument :
    ∃ s query, load (namingDocument "a") = .ok s ∧ s.compile .sqlite .rows = .ok query ∧
      query.parameters.value? "a" = some (.int 1) ∧
      Binding.bind query.sql query.parameters .sqlite ≠ .error (.missingParameter "a") := by
  have hcompile : (namingQuery "a").compile .sqlite .rows =
    .ok ⟨"SELECT * FROM t WHERE x = @a", (namingQuery "a").parameters⟩ := by rfl
  have hidentifier : Text.IsIdentifier "a".toList := ⟨by decide +kernel, rfl⟩
  obtain ⟨-, members, hmembers, -, hserved⟩ := parameters_of_load (load_namingDocument "a")
  cases (hmembers : some [("a", _)] = some members)
  obtain ⟨value, hvalue, hbound⟩ := hserved "a" List.mem_cons_self hidentifier
  cases (hvalue : some _ = some value)
  obtain ⟨hfound, hbind⟩ := hbound .sqlite .rows _ hcompile
  exact ⟨_, _, load_namingDocument "a", hcompile, hfound, hbind⟩

end Specification

end SelectQuery
