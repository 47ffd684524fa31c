import SelectQuery.Parameters
import SelectQuery.Proofs.Json.Scanning

namespace SelectQuery

namespace Entries

variable {α : Type} {name : String} {value : α} {entries sorted : List (String × α)}

lemma insert_of_lt (h : ∀ entry ∈ entries, entry.1 < name) :
    insert name value entries = entries ++ [(name, value)] := by
  induction entries with
  | nil => rfl
  | cons entry entries ih =>
    obtain ⟨hfirst, hrest⟩ := List.forall_mem_cons.mp h
    have hlt : ¬ name < entry.1 := fun hlt => String.lt_irrefl _ (String.lt_trans hlt hfirst)
    have hne : name ≠ entry.1 := fun heq => String.lt_irrefl _ (heq ▸ hfirst)
    rw [insert, if_neg hlt, if_neg hne, ih hrest, List.cons_append]

lemma foldl_insert_of_ordered (h : Ordered (sorted ++ entries)) :
    entries.foldl (fun sorted entry => insert entry.1 entry.2 sorted) sorted =
      sorted ++ entries := by
  induction entries generalizing sorted with
  | nil => exact (List.append_nil sorted).symm
  | cons entry entries ih =>
    have hlast : ∀ before ∈ sorted, before.1 < entry.1 := fun before hbefore =>
      (List.pairwise_append.mp h).2.2 before hbefore entry List.mem_cons_self
    have hsplit : sorted ++ entry :: entries = (sorted ++ [entry]) ++ entries := by simp
    rw [hsplit] at h
    rw [List.foldl_cons, insert_of_lt hlast, ih h, hsplit]

lemma ofList_of_ordered (h : Ordered entries) : ofList entries = entries :=
  foldl_insert_of_ordered h

end Entries

namespace NameMap

variable {α β : Type}

lemma ofList_entries (map : NameMap α) : ofList map.entries = map := by
  obtain ⟨entries, hordered⟩ := map
  rw [ofList]
  congr
  exact Entries.ofList_of_ordered hordered

def map (map : NameMap α) (f : α → β) : NameMap β :=
  ⟨map.entries.map fun entry => (entry.1, f entry.2), List.pairwise_map.mpr map.ordered⟩

end NameMap

namespace Json

lemma settleMembers?_names {ms ns : List (String × Json)} (h : settleMembers? ms = some ns) :
    ns.map Prod.fst = ms.map Prod.fst := by
  induction ms generalizing ns with
  | nil =>
    cases h
    rfl
  | cons m ms ih =>
    obtain ⟨name, j⟩ := m
    simp only [settleMembers?, Option.bind_eq_bind, Option.bind_eq_some_iff] at h
    obtain ⟨k, -, ks, hks, hns⟩ := h
    cases hns
    rw [List.map_cons, List.map_cons, ih hks]

lemma ordered_of_settle?_object {ms : List (String × Json)}
    (h : settle? (.object ms) = some (.object ms)) : Entries.Ordered ms := by
  obtain ⟨ns, -, heq⟩ := Option.map_eq_some_iff.mp h
  exact object.inj heq ▸ Entries.ordered_ofList ns

lemma settleMembers?_of_settle?_object {ms : List (String × Json)}
    (h : settle? (.object ms) = some (.object ms)) : settleMembers? ms = some ms := by
  obtain ⟨ns, hns, heq⟩ := Option.map_eq_some_iff.mp h
  have hms : Entries.ofList ns = ms := object.inj heq
  have hordered : Entries.Ordered ns := by
    have hnames := List.pairwise_map.mpr (ordered_of_settle?_object h)
    rw [← settleMembers?_names hns] at hnames
    exact List.pairwise_map.mp hnames
  rw [Entries.ofList_of_ordered hordered] at hms
  rw [hns, hms]

mutual

theorem plain_of_settle? : ∀ j, settle? j = some j → plain j = j
  | .null, _ => rfl
  | .bool _, _ => rfl
  | .int _, _ => rfl
  | .float x, h => by
    rw [plain, finite]
    exact Option.some.inj h
  | .string _, _ => rfl
  | .array js, h => by
    obtain ⟨ks, hks, heq⟩ := Option.map_eq_some_iff.mp h
    cases heq
    rw [plain, plainItems_of_settle? js hks]
  | .object ms, h => by
    rw [plain, plainMembers_of_settle? ms (settleMembers?_of_settle?_object h)]

theorem plainItems_of_settle? : ∀ js, settleItems? js = some js → plainItems js = js
  | [], _ => rfl
  | j :: js, h => by
    simp only [settleItems?, Option.bind_eq_bind, Option.bind_eq_some_iff] at h
    obtain ⟨k, hk, ks, hks, heq⟩ := h
    cases heq
    rw [plainItems, plain_of_settle? j hk, plainItems_of_settle? js hks]

theorem plainMembers_of_settle? : ∀ ms, settleMembers? ms = some ms → plainMembers ms = ms
  | [], _ => rfl
  | (name, j) :: ms, h => by
    simp only [settleMembers?, Option.bind_eq_bind, Option.bind_eq_some_iff] at h
    obtain ⟨k, hk, ks, hks, heq⟩ := h
    cases heq
    rw [plainMembers, plain_of_settle? j hk, plainMembers_of_settle? ms hks]

end

end Json

namespace Value

def Kept : Value → Prop
  | .json j => j.settle? = some j
  | _ => True

def Produced : Value → Prop
  | .json (.array _) | .json (.object _) => True
  | .json _ => False
  | _ => True

def restored : Value → Value
  | .float x => if x.isFinite then .float x else .null
  | v => v

lemma read?_int (i : WholeNumber) : read? (.int i) = some (ofJson (.int i)) := by
  have hread : read? (.int i) =
      ((Json.asInt64? (.int i)).map .int).or (some (.float (.ofInt i.val))) := by
    rw [read?]
    cases Json.asInt64? (.int i) <;> rfl
  rw [hread, Json.asInt64?, ofJson]
  split <;> rfl

lemma read?_of_settle? {j : Json} (h : j.settle? = some j) : read? j = some (ofJson j) := by
  cases j with
  | null | bool b | float x | string s => rfl
  | int i => exact read?_int i
  | array js =>
    have hread : read? (.array js) = (Json.settle? (.array js)).map .json := rfl
    rw [hread, h]
    rfl
  | object ms =>
    have hread : read? (.object ms) = (Json.settle? (.object ms)).map .json := rfl
    rw [hread, h]
    rfl
  | void => cases h

variable {v : Value}

lemma read?_plain_json {j : Json} (h : (Value.json j).Kept) :
    read? (Value.json j).toJson.plain = some (ofJson j) := by
  have hplain : (Value.json j).toJson.plain = j := Json.plain_of_settle? j h
  rw [hplain, read?_of_settle? h]

lemma read?_toJson_int (i : Int64) : read? (Value.int i).toJson.plain = some (.int i) := by
  have hlow := i.le_toInt
  have hhigh := i.toInt_lt
  have hbounded : -0x8000000000000000 ≤ i.toInt ∧ i.toInt < 0x10000000000000000 := by omega
  have hjson : (Value.int i).toJson = .int ⟨i.toInt, hbounded⟩ := by
    rw [toJson, Json.ofInt, dif_pos hbounded]
  have hsigned : i.toInt < 0x8000000000000000 := hhigh
  rw [hjson, Json.plain, read?_int, ofJson, if_pos hsigned, Int64.ofInt_toInt]

lemma read?_plain_toJson (hk : v.Kept) (hp : v.Produced) :
    read? v.toJson.plain = some v.restored := by
  cases v with
  | null | bool b | text s => rfl
  | int i => exact read?_toJson_int i
  | float x =>
    rw [toJson, Json.plain, Json.finite, restored]
    cases x.isFinite <;> rfl
  | json j =>
    rw [read?_plain_json hk]
    cases j with
    | array js | object ms => rfl
    | null | bool b | int i | float x | string s | void => exact hp.elim

lemma exists_read?_plain (hk : v.Kept) : ∃ w, read? v.toJson.plain = some w := by
  cases v with
  | json j => exact ⟨_, read?_plain_json hk⟩
  | null | bool b | int i | float x | text s => exact ⟨_, read?_plain_toJson hk trivial⟩

end Value

namespace Parameters

lemma readMembers?_plain {f : Value → Value} {entries : List (String × Value)}
    (h : ∀ entry ∈ entries, Value.read? entry.2.toJson.plain = some (f entry.2)) :
    readMembers? (Json.plainMembers (entries.map fun (name, value) => (name, value.toJson))) =
      some (entries.map fun entry => (entry.1, f entry.2)) := by
  induction entries with
  | nil => rfl
  | cons entry entries ih =>
    obtain ⟨hfirst, hrest⟩ := List.forall_mem_cons.mp h
    rw [List.map_cons, List.map_cons, Json.plainMembers, readMembers?, hfirst, ih hrest]
    rfl

lemma read?_plain_toJson {f : Value → Value} {p : Parameters}
    (h : ∀ entry ∈ p.entries, Value.read? entry.2.toJson.plain = some (f entry.2)) :
    read? p.toJson.plain = some (p.map f) := by
  have hread : read? p.toJson.plain =
      (readMembers? (Json.plainMembers
        (p.entries.map fun (name, value) => (name, value.toJson)))).map .ofList := rfl
  rw [hread, readMembers?_plain h, Option.map_some]
  exact congrArg some (NameMap.ofList_entries (p.map f))

end Parameters

end SelectQuery
