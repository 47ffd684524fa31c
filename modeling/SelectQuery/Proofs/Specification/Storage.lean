import SelectQuery.Command.Basic
import SelectQuery.Proofs.Json.Reading
import SelectQuery.Proofs.Specification.Equality
import SelectQuery.Proofs.Specification.Validity
import SelectQuery.Proofs.Value.Storage

namespace SelectQuery

namespace Json

lemma nesting_le_nestingItems {j : Json} {js : List Json} (h : j ∈ js) :
    j.nesting ≤ nestingItems js := by
  induction js with
  | nil => cases h
  | cons k js ih =>
    rw [nestingItems]
    rcases List.mem_cons.mp h with rfl | h
    · exact Nat.le_max_left _ _
    · exact (ih h).trans (Nat.le_max_right _ _)

lemma nesting_le_nestingMembers {name : String} {j : Json} {ms : List (String × Json)}
    (h : (name, j) ∈ ms) : j.nesting ≤ nestingMembers ms := by
  induction ms with
  | nil => cases h
  | cons m ms ih =>
    rw [nestingMembers]
    rcases List.mem_cons.mp h with rfl | h
    · exact Nat.le_max_left _ _
    · exact (ih h).trans (Nat.le_max_right _ _)

lemma nesting_lt_array {j : Json} {js : List Json} (h : j ∈ js) :
    j.nesting < (array js).nesting := by
  have hle := nesting_le_nestingItems h
  rw [nesting]
  omega

lemma nesting_lt_object {name : String} {j : Json} {ms : List (String × Json)}
    (h : (name, j) ∈ ms) : j.nesting < (object ms).nesting := by
  have hle := nesting_le_nestingMembers h
  rw [nesting]
  omega

lemma fields?_object {names : List String} {members : List (String × Json)}
    (hnames : members.map Prod.fst = names) (hdistinct : names.Nodup) :
    fields? names (.object members) = some members := by
  have hknown : members.filter (names.contains ·.1) = members := by
    refine List.filter_eq_self.mpr fun m hm => ?_
    rw [← hnames]
    exact List.contains_iff_mem.mpr (List.mem_map_of_mem hm)
  rw [fields?, hknown, if_pos (hnames ▸ hdistinct)]

lemma list_array {α β : Type} {read? : Json → Option β} {write : α → Json} {result : α → β}
    {as : List α} (h : ∀ a ∈ as, read? (write a) = some (result a)) :
    list read? (.array (as.map write)) = some (as.map result) := by
  change (as.map write).mapM read? = some (as.map result)
  induction as with
  | nil => rfl
  | cons a as ih =>
    obtain ⟨hfirst, hrest⟩ := List.forall_mem_cons.mp h
    rw [List.map_cons, List.mapM_cons, hfirst, ih hrest]
    rfl

end Json

namespace Specification

mutual

def values : Specification → List Value
  | ⟨_, _, _, _, _, _, _, _, _, _, _, parameters, unions, source, ctes⟩ =>
    parameters.entries.map Prod.snd ++ memberValues unions ++ sourceValues source ++ cteValues ctes

def memberValues : List (UnionMember Specification) → List Value
  | [] => []
  | m :: ms => values m.query ++ memberValues ms

def sourceValues : Option (DerivedTable Specification) → List Value
  | none => []
  | some d => values d.query

def cteValues : List (CommonTable Specification) → List Value
  | [] => []
  | c :: cs => values c.query ++ cteValues cs

end

section Membership

variable {v : Value} {s : Specification}

lemma mem_memberValues {ms : List (UnionMember Specification)} :
    v ∈ memberValues ms ↔ ∃ m ∈ ms, v ∈ m.query.values := by
  induction ms with
  | nil => simp [memberValues]
  | cons m ms ih => simp [memberValues, ih]

lemma mem_sourceValues {source : Option (DerivedTable Specification)} :
    v ∈ sourceValues source ↔ ∃ d ∈ source, v ∈ d.query.values := by
  cases source <;> simp [sourceValues]

lemma mem_cteValues {cs : List (CommonTable Specification)} :
    v ∈ cteValues cs ↔ ∃ c ∈ cs, v ∈ c.query.values := by
  induction cs with
  | nil => simp [cteValues]
  | cons c cs ih => simp [cteValues, ih]

lemma mem_values : v ∈ s.values ↔ (∃ entry ∈ s.parameters.entries, entry.2 = v) ∨
    (∃ m ∈ s.unions, v ∈ m.query.values) ∨ (∃ d ∈ s.source, v ∈ d.query.values) ∨
    ∃ c ∈ s.ctes, v ∈ c.query.values := by
  cases s
  rw [values, List.mem_append, List.mem_append, List.mem_append, mem_memberValues,
    mem_sourceValues, mem_cteValues, List.mem_map, or_assoc, or_assoc]

end Membership

section Values

variable (f : Value → Value)

mutual

def withValues : Specification → Specification
  | ⟨table, key, projection, distinct, joins, filter, grouping, groupFilter, ordering, skip, take,
      parameters, unions, source, ctes⟩ =>
    ⟨table, key, projection, distinct, joins, filter, grouping, groupFilter, ordering, skip, take,
      parameters.map f, membersWithValues unions, sourceWithValues source,
      ctesWithValues ctes⟩

def membersWithValues : List (UnionMember Specification) → List (UnionMember Specification)
  | [] => []
  | m :: ms => { m with query := withValues m.query } :: membersWithValues ms

def sourceWithValues :
    Option (DerivedTable Specification) → Option (DerivedTable Specification)
  | none => none
  | some d => some { d with query := withValues d.query }

def ctesWithValues : List (CommonTable Specification) → List (CommonTable Specification)
  | [] => []
  | c :: cs => { c with query := withValues c.query } :: ctesWithValues cs

end

lemma membersWithValues_eq (ms : List (UnionMember Specification)) :
    membersWithValues f ms = ms.map (.map (withValues f)) := by
  induction ms with
  | nil => rfl
  | cons m ms ih => rw [membersWithValues, ih, List.map_cons, UnionMember.map]

lemma sourceWithValues_eq (source : Option (DerivedTable Specification)) :
    sourceWithValues f source = source.map (.map (withValues f)) := by
  cases source <;> rfl

lemma ctesWithValues_eq (cs : List (CommonTable Specification)) :
    ctesWithValues f cs = cs.map (.map (withValues f)) := by
  induction cs with
  | nil => rfl
  | cons c cs ih => rw [ctesWithValues, ih, List.map_cons, CommonTable.map]

lemma withValues_eq (s : Specification) :
    s.withValues f =
      { s with
        parameters := s.parameters.map f
        unions := s.unions.map (.map (withValues f))
        source := s.source.map (.map (withValues f))
        ctes := s.ctes.map (.map (withValues f)) } := by
  cases s
  rw [withValues, membersWithValues_eq, sourceWithValues_eq, ctesWithValues_eq]

lemma validate_withValues (s : Specification) : (s.withValues f).validate = s.validate := by
  induction s using inductionOn with
  | step s unions source ctes =>
    rw [withValues_eq, validate_eq, validate_eq, validateMembers_map unions,
      validateSource_map source, validateCtes_map ctes]
    rfl

end Values

def storedMember (m : UnionMember Specification) : Json :=
  .object [("query", m.query.toJson.plain), ("all", .bool m.all)]

def storedSource (d : DerivedTable Specification) : Json :=
  .object [("query", d.query.toJson.plain), ("alias", .string d.label)]

def storedCte (c : CommonTable Specification) : Json :=
  .object [("name", .string c.name), ("query", c.query.toJson.plain)]

def storedFields (s : Specification) : List (String × Json) :=
  [("table_name", .string s.table), ("primary_key", .string s.primaryKey),
    ("select_clause", .string s.projection), ("distinct", .bool s.distinct),
    ("join_clause", .string s.joins), ("where_clause", .string s.filter),
    ("group_by", .string s.grouping), ("having", .string s.groupFilter),
    ("order_by", .string s.ordering), ("skip", countToJson s.skip), ("take", countToJson s.take),
    ("parameters", s.parameters.toJson.plain), ("unions", .array (s.unions.map storedMember)),
    ("from_subquery", (s.source.map storedSource).getD .null),
    ("ctes", .array (s.ctes.map storedCte))]

lemma plain_countToJson (n : Option UInt64) : (countToJson n).plain = countToJson n := by
  cases n with
  | none => rfl
  | some n =>
    have hlt : n.toNat < 0x10000000000000000 := n.toNat_lt
    rw [countToJson, Json.ofNat, dif_pos hlt, Json.plain]

lemma plainItems_membersToJson (ms : List (UnionMember Specification)) :
    Json.plainItems (membersToJson ms) = ms.map storedMember := by
  induction ms with
  | nil => rfl
  | cons m ms ih =>
    rw [membersToJson, Json.plainItems, ih]
    rfl

lemma plainItems_ctesToJson (cs : List (CommonTable Specification)) :
    Json.plainItems (ctesToJson cs) = cs.map storedCte := by
  induction cs with
  | nil => rfl
  | cons c cs ih =>
    rw [ctesToJson, Json.plainItems, ih]
    rfl

lemma plain_sourceToJson (source : Option (DerivedTable Specification)) :
    (sourceToJson source).plain = (source.map storedSource).getD .null := by
  cases source <;> rfl

lemma plain_toJson (s : Specification) : s.toJson.plain = .object s.storedFields := by
  cases s
  simp only [toJson, storedFields, Json.plain, Json.plainMembers, plain_countToJson,
    plainItems_membersToJson, plain_sourceToJson, plainItems_ctesToJson]

section Nesting

variable {s : Specification}

lemma nesting_field_lt {name : String} {j : Json} (h : (name, j) ∈ s.storedFields) :
    j.nesting < s.toJson.plain.nesting := by
  rw [plain_toJson]
  exact Json.nesting_lt_object h

lemma nesting_member_lt {m : UnionMember Specification} (h : m ∈ s.unions) :
    m.query.toJson.plain.nesting < s.toJson.plain.nesting := by
  have hquery : m.query.toJson.plain.nesting < (storedMember m).nesting :=
    Json.nesting_lt_object List.mem_cons_self
  have hmember := Json.nesting_lt_array (List.mem_map_of_mem (f := storedMember) h)
  have hunions : ("unions", .array (s.unions.map storedMember)) ∈ s.storedFields := by
    simp [storedFields]
  exact hquery.trans (hmember.trans (nesting_field_lt hunions))

lemma nesting_source_lt {d : DerivedTable Specification} (h : d ∈ s.source) :
    d.query.toJson.plain.nesting < s.toJson.plain.nesting := by
  have hquery : d.query.toJson.plain.nesting < (storedSource d).nesting :=
    Json.nesting_lt_object List.mem_cons_self
  have hsource : ("from_subquery", storedSource d) ∈ s.storedFields := by
    simp [storedFields, Option.mem_def.mp h]
  exact hquery.trans (nesting_field_lt hsource)

lemma nesting_cte_lt {c : CommonTable Specification} (h : c ∈ s.ctes) :
    c.query.toJson.plain.nesting < s.toJson.plain.nesting := by
  have hquery : c.query.toJson.plain.nesting < (storedCte c).nesting :=
    Json.nesting_lt_object (List.mem_cons_of_mem _ List.mem_cons_self)
  have hcte := Json.nesting_lt_array (List.mem_map_of_mem (f := storedCte) h)
  have hctes : ("ctes", .array (s.ctes.map storedCte)) ∈ s.storedFields := by
    simp [storedFields]
  exact hquery.trans (hcte.trans (nesting_field_lt hctes))

end Nesting

section Reading

variable {readQuery? : Json → Option Specification} {g : Specification → Specification}

lemma readMember?_stored {m : UnionMember Specification}
    (h : readQuery? m.query.toJson.plain = some (g m.query)) :
    readMember? readQuery? (storedMember m) = some (m.map g) := by
  have hfields : (storedMember m).fields? ["query", "all"] =
      some [("query", m.query.toJson.plain), ("all", .bool m.all)] :=
    Json.fields?_object rfl (by decide)
  have hquery : Json.required [("query", m.query.toJson.plain), ("all", .bool m.all)] "query"
      readQuery? = some (g m.query) := h
  rw [readMember?, hfields, Option.bind_eq_bind, Option.bind_some, hquery]
  rfl

lemma readSource?_stored {d : DerivedTable Specification}
    (h : readQuery? d.query.toJson.plain = some (g d.query)) :
    readSource? readQuery? (storedSource d) = some (d.map g) := by
  have hfields : (storedSource d).fields? ["query", "alias"] =
      some [("query", d.query.toJson.plain), ("alias", .string d.label)] :=
    Json.fields?_object rfl (by decide)
  have hquery : Json.required [("query", d.query.toJson.plain), ("alias", .string d.label)] "query"
      readQuery? = some (g d.query) := h
  rw [readSource?, hfields, Option.bind_eq_bind, Option.bind_some, hquery]
  rfl

lemma readCte?_stored {c : CommonTable Specification}
    (h : readQuery? c.query.toJson.plain = some (g c.query)) :
    readCte? readQuery? (storedCte c) = some (c.map g) := by
  have hfields : (storedCte c).fields? ["name", "query"] =
      some [("name", .string c.name), ("query", c.query.toJson.plain)] :=
    Json.fields?_object rfl (by decide)
  have hquery : Json.required [("name", .string c.name), ("query", c.query.toJson.plain)] "query"
      readQuery? = some (g c.query) := h
  rw [readCte?, hfields, Option.bind_eq_bind, Option.bind_some, hquery]
  rfl

lemma read_countToJson (n : Option UInt64) :
    Json.nullable Json.asUInt64? (countToJson n) = some n := by
  cases n with
  | none => rfl
  | some n =>
    have hlt : n.toNat < 0x10000000000000000 := n.toNat_lt
    rw [countToJson, Json.ofNat, dif_pos hlt, Json.nullable, if_neg (by exact nofun),
      Json.asUInt64?, if_pos (Int.natCast_nonneg _), Int.toNat_natCast, UInt64.ofNat_toNat]
    rfl

lemma read_source {source : Option (DerivedTable Specification)}
    (h : ∀ d ∈ source, readQuery? d.query.toJson.plain = some (g d.query)) :
    Json.nullable (readSource? readQuery?) ((source.map storedSource).getD .null) =
      some (source.map (.map g)) := by
  cases source with
  | none => rfl
  | some d =>
    have hread := readSource?_stored (h d rfl)
    rw [Option.map_some, Option.getD_some, Json.nullable, if_neg (by exact nofun), hread]
    rfl

lemma readLevel?_stored {s : Specification} {p : Parameters}
    (hparameters : Parameters.read? s.parameters.toJson.plain = some p)
    (hunions : ∀ m ∈ s.unions, readQuery? m.query.toJson.plain = some (g m.query))
    (hsource : ∀ d ∈ s.source, readQuery? d.query.toJson.plain = some (g d.query))
    (hctes : ∀ c ∈ s.ctes, readQuery? c.query.toJson.plain = some (g c.query)) :
    readLevel? readQuery? s.toJson.plain =
      some { s with
        parameters := p
        unions := s.unions.map (.map g)
        source := s.source.map (.map g)
        ctes := s.ctes.map (.map g) } := by
  have hfields : s.toJson.plain.fields? fieldNames = some s.storedFields := by
    rw [plain_toJson]
    exact Json.fields?_object rfl (by decide)
  have hskip : Json.field s.storedFields "skip" none (Json.nullable Json.asUInt64?) =
      some s.skip := read_countToJson s.skip
  have htake : Json.field s.storedFields "take" none (Json.nullable Json.asUInt64?) =
      some s.take := read_countToJson s.take
  have hp : Json.field s.storedFields "parameters" .empty Parameters.read? = some p := hparameters
  have hu : Json.field s.storedFields "unions" [] (Json.list (readMember? readQuery?)) =
      some (s.unions.map (.map g)) :=
    Json.list_array fun m hm => readMember?_stored (hunions m hm)
  have hs : Json.field s.storedFields "from_subquery" none
      (Json.nullable (readSource? readQuery?)) = some (s.source.map (.map g)) := read_source hsource
  have hc : Json.field s.storedFields "ctes" [] (Json.list (readCte? readQuery?)) =
      some (s.ctes.map (.map g)) :=
    Json.list_array fun c hc => readCte?_stored (hctes c hc)
  rw [readLevel?, hfields, Option.bind_eq_bind, Option.bind_some, hskip, htake, hp, hu, hs, hc]
  rfl

end Reading

variable {s : Specification} {f : Value → Value}

lemma readLevels?_stored {levels : Nat}
    (hf : ∀ v ∈ s.values, Value.read? v.toJson.plain = some (f v))
    (hlevels : s.toJson.plain.nesting < levels) :
    readLevels? levels s.toJson.plain = some (s.withValues f) := by
  -- A level reads its nested queries with the levels below it, and they nest less deep.
  induction s using inductionOn generalizing levels with
  | step s unions source ctes =>
    obtain - | levels := levels
    · exact absurd hlevels (Nat.not_lt_zero _)
    · rw [readLevels?, withValues_eq]
      apply readLevel?_stored
      · apply Parameters.read?_plain_toJson
        exact fun entry hentry => hf _ (mem_values.mpr (.inl ⟨entry, hentry, rfl⟩))
      · intro m hm
        have hlt := nesting_member_lt hm
        have hvalues := fun v hv => hf v (mem_values.mpr (.inr (.inl ⟨m, hm, hv⟩)))
        exact unions m hm hvalues (by omega)
      · intro d hd
        have hlt := nesting_source_lt hd
        have hvalues := fun v hv => hf v (mem_values.mpr (.inr (.inr (.inl ⟨d, hd, hv⟩))))
        exact source d hd hvalues (by omega)
      · intro c hc
        have hlt := nesting_cte_lt hc
        have hvalues := fun v hv => hf v (mem_values.mpr (.inr (.inr (.inr ⟨c, hc, hv⟩))))
        exact ctes c hc hvalues (by omega)

lemma load_stored (hf : ∀ v ∈ s.values, Value.read? v.toJson.plain = some (f v)) :
    load s.toJson.plain = (s.validate.mapError .rejected).map fun _ => s.withValues f := by
  have hread : read? s.toJson.plain = some (s.withValues f) :=
    readLevels?_stored hf (Nat.lt_succ_self _)
  have hload : load s.toJson.plain =
      ((s.withValues f).validate.mapError .rejected).map fun _ => s.withValues f := by
    simp only [load, hread]
    cases (s.withValues f).validate <;> rfl
  rw [hload, validate_withValues]

/-- A query that is valid is loaded from its text, with null for every number that is not finite.
One that is not valid is rejected for the rule that it breaks. -/
theorem load_render (hkept : ∀ v ∈ s.values, v.Kept)
    (hfloats : ∀ x ∈ s.toJson.floats, x.isFinite = true → Json.Restored x)
    (hnesting : s.toJson.nesting ≤ Command.nestingLimit) :
    ((∀ v ∈ s.values, v.Produced) → s.validate = .ok () →
      Command.TextFormat.json.load s.toJson.render = .ok (s.withValues Value.restored)) ∧
    ∀ e, s.validate = .error e →
      Command.TextFormat.json.load s.toJson.render = .error (.rejected e) := by
  have hload : Command.TextFormat.json.load s.toJson.render = load s.toJson.plain := by
    rw [Command.TextFormat.load, Command.TextFormat.parse?, Json.parse?_render hnesting hfloats]
  rw [hload]
  constructor
  · intro hproduced hvalid
    have hread : ∀ v ∈ s.values, Value.read? v.toJson.plain = some v.restored := fun v hv =>
      Value.read?_plain_toJson (hkept v hv) (hproduced v hv)
    rw [load_stored hread, hvalid]
    rfl
  · intro e herror
    -- A value of another kind may come back changed, but it is read.
    let back (v : Value) : Value := (Value.read? v.toJson.plain).getD v
    have hread : ∀ v ∈ s.values, Value.read? v.toJson.plain = some (back v) := by
      intro v hv
      obtain ⟨w, hw⟩ := Value.exists_read?_plain (hkept v hv)
      simp only [back, hw, Option.getD_some]
    rw [load_stored hread, herror]
    rfl

def halfRate : Binary64 := ⟨0x3fe0000000000000⟩

def storedOrders : Specification :=
  { table := "orders o", filter := "o.note = @note", skip := some 0, take := some 5
    parameters := ⟨[("any", .null), ("cap", .float (.infinity false)), ("note", .text "\"\t\x01é"),
      ("rate", .float halfRate), ("tags", .json (.array [.object [("", .null)]])), ("top", .int 2)],
      by decide +kernel⟩
    unions := [⟨{ table := "old", parameters := ⟨[("on", .bool true)], by decide +kernel⟩ }, true⟩]
    source := some ⟨{ table := "recent" }, "r"⟩
    ctes := [⟨"big", { table := "lines" }⟩] }

lemma restored_halfRate : Json.Restored halfRate := by
  have hwrite : Json.numberLayout.write halfRate = "0.5".toList := by decide +kernel
  have hparts : Json.Numeral.parts ⟨false, ['0'], ['5'], none⟩ = (5, -1) := by decide +kernel
  have hscale : Json.Numeral.scale? 5 (-1) = some halfRate := by decide +kernel
  have hfloat : Json.Numeral.float ⟨false, ['0'], ['5'], none⟩ = .float halfRate := by
    rw [Json.Numeral.float, hparts, hscale]
    rfl
  have hvalue : Json.Numeral.value ⟨false, ['0'], ['5'], none⟩ = .float halfRate := hfloat
  rw [Json.Restored, hwrite, ← hvalue]
  rfl

def blankOrders : Specification :=
  { parameters := ⟨[("flag", .json (.bool true))], List.pairwise_singleton _ _⟩
    unions := [⟨{ grouping := " " }, false⟩] }

theorem load_render_storedOrders :
    (∀ v ∈ storedOrders.values, v.Produced) ∧ storedOrders.validate = .ok () ∧
      Command.TextFormat.json.load storedOrders.toJson.render =
        .ok (storedOrders.withValues Value.restored) ∧
      Command.TextFormat.json.load blankOrders.toJson.render =
        .error (.rejected (.blank "clause")) := by
  have hvalues : storedOrders.values = [.null, .float (.infinity false), .text "\"\t\x01é",
      .float halfRate, .json (.array [.object [("", .null)]]), .int 2, .bool true] := by rfl
  have hkept : ∀ v ∈ storedOrders.values, v.Kept := by
    have htags : Json.settle? (.array [.object [("", .null)]]) =
        some (.array [.object [("", .null)]]) := rfl
    rw [hvalues]
    simp [Value.Kept, htags]
  have hproduced : ∀ v ∈ storedOrders.values, v.Produced := by
    rw [hvalues]
    simp [Value.Produced]
  have hvalid : storedOrders.validate = .ok () := by rfl
  have hfloats : ∀ x ∈ storedOrders.toJson.floats, x.isFinite = true → Json.Restored x := by
    have hall : storedOrders.toJson.floats = [.infinity false, halfRate] := by rfl
    rw [hall]
    intro x hx hfinite
    rcases List.mem_pair.mp hx with rfl | rfl
    · exact absurd hfinite (by decide +kernel)
    · exact restored_halfRate
  have hnesting : storedOrders.toJson.nesting ≤ Command.nestingLimit := by decide +kernel
  have hblank : ∀ v ∈ blankOrders.values, v.Kept := by
    have hflag : blankOrders.values = [.json (.bool true)] := by rfl
    rw [hflag]
    exact List.forall_mem_singleton.mpr rfl
  have hnone : ∀ x ∈ blankOrders.toJson.floats, x.isFinite = true → Json.Restored x := nofun
  exact ⟨hproduced, hvalid, (load_render hkept hfloats hnesting).1 hproduced hvalid,
    (load_render hblank hnone (by decide +kernel)).2 _ rfl⟩

end Specification

end SelectQuery
