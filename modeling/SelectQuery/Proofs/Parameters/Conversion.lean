import SelectQuery.Proofs.Parameters.Reading

/-! Values are made of JSON values by calls and by reading, and both make the same of one. Only a
whole number that no signed 64-bit word holds is not got back. -/

namespace SelectQuery

namespace Value

structure Converted (j : Json) (v : Value) : Prop where
  read : read? j = some v
  stored : (∀ i, j = .int i → i.val < 0x8000000000000000) → v.toJson = j
  rounded : ∀ i, j = .int i → 0x8000000000000000 ≤ i.val →
    ∃ x, v = .float x ∧ v.toJson = .float x ∧ Binary64.Nearest i.val.toNat 1 x

variable {i : WholeNumber} {j : Json}

lemma toJson_ofJson_int (h : i.val < 0x8000000000000000) : (ofJson (.int i)).toJson = .int i := by
  have hword : (Int64.ofInt i.val).toInt = i.val := Int64.toInt_ofInt_of_le i.2.1 h
  rw [ofJson, if_pos h, toJson, hword, Json.ofInt, dif_pos i.2]

lemma ofJson_long (h : 0x8000000000000000 ≤ i.val) : ofJson (.int i) = .float (.ofInt i.val) := by
  rw [ofJson, if_neg (Int.not_lt.mpr h)]

lemma converted_ofJson (h : j.settle? = some j) : Converted j (ofJson j) := by
  refine ⟨read?_of_settle? h, fun hshort => ?_, fun i hint hlong => ?_⟩
  · cases j with
    | int i => exact toJson_ofJson_int (hshort i rfl)
    | null | bool b | float x | string s | array js | object ms => rfl
    | void => cases h
  · subst hint
    have hlow : 0 ≤ i.val := by omega
    rw [ofJson_long hlong]
    exact ⟨_, rfl, rfl, Binary64.nearest_ofInt hlow i.2.2⟩

end Value

namespace Parameters

variable {members : List (String × Json)}

lemma readMembers?_of_settleMembers? (h : Json.settleMembers? members = some members) :
    readMembers? members = some (members.map fun m => (m.1, Value.ofJson m.2)) := by
  induction members with
  | nil => rfl
  | cons m members ih =>
    obtain ⟨name, j⟩ := m
    simp only [Json.settleMembers?, Option.bind_eq_bind, Option.bind_eq_some_iff] at h
    obtain ⟨k, hk, ks, hks, heq⟩ := h
    cases heq
    rw [readMembers?, Value.read?_of_settle? hk, ih hks]
    rfl

theorem conversions_agree :
    (∀ j : Json, j.settle? = some j → Value.Converted j (.ofJson j)) ∧
    ∀ members, (Json.object members).settle? = some (.object members) →
      (∀ m ∈ members, IsNormal m.1) →
      ∃ p, read? (.object members) = some p ∧ mergeObject .empty (.object members) = .ok p ∧
        p.entries = members.map fun m => (m.1, Value.ofJson m.2) := by
  refine ⟨fun _ => Value.converted_ofJson, fun members hsettled hnormal => ?_⟩
  have hordered := Json.ordered_of_settle?_object hsettled
  have hmembers := Json.settleMembers?_of_settle?_object hsettled
  obtain ⟨p, hmerged, hentries⟩ := mergeObject_of_isNormal hordered hnormal
  have hread : read? (.object members) = (readMembers? members).map .ofList := rfl
  rw [readMembers?_of_settleMembers? hmembers, ← hentries, Option.map_some,
    NameMap.ofList_entries] at hread
  exact ⟨p, hread, hmerged, hentries⟩

def longest : WholeNumber := ⟨18446744073709551615, by decide⟩

def mixedMembers : List (String × Json) :=
  [("code", .int longest), ("prices", .array [.float (.ofInt 3), .int ⟨3, by decide⟩]),
    ("shift", .float (.zero true))]

theorem conversions_agree_mixedMembers :
    (∃ x, Value.ofJson (.int longest) = .float x ∧
      (Value.ofJson (.int longest)).toJson = .float x ∧
      Binary64.Nearest 18446744073709551615 1 x) ∧
    (Value.ofJson (.object mixedMembers)).toJson = .object mixedMembers ∧
    ∃ p, read? (.object mixedMembers) = some p ∧
      mergeObject .empty (.object mixedMembers) = .ok p ∧
      p.entries = [("code", .float ⟨0x43f0000000000000⟩),
        ("prices", .json (.array [.float (.ofInt 3), .int ⟨3, by decide⟩])),
        ("shift", .float ⟨0x8000000000000000⟩)] := by
  have hsettled : (Json.object mixedMembers).settle? = some (.object mixedMembers) := by rfl
  have hnormal : ∀ m ∈ mixedMembers, IsNormal m.1 := by
    intro m hm
    have hname : m.1 ∈ ["code", "prices", "shift"] := List.mem_map_of_mem hm
    have hall : ∀ name ∈ ["code", "prices", "shift"],
        Text.isBlank name = false ∧ normalName name = name := by decide +kernel
    exact ⟨(hall m.1 hname).1, (hall m.1 hname).2⟩
  have hrounded : Binary64.ofInt longest.val = ⟨0x43f0000000000000⟩ := by decide +kernel
  have hfirst : Value.ofJson (.int longest) = .float ⟨0x43f0000000000000⟩ := by
    rw [Value.ofJson_long (by decide), hrounded]
  have hlongest := conversions_agree.1 (.int longest) rfl
  have hobject := conversions_agree.1 (.object mixedMembers) hsettled
  obtain ⟨p, hread, hmerged, hentries⟩ := conversions_agree.2 mixedMembers hsettled hnormal
  refine ⟨hlongest.rounded longest rfl (by decide), hobject.stored (fun i hi => by cases hi),
    p, hread, hmerged, ?_⟩
  rw [hentries, mixedMembers, List.map_cons, hfirst]
  rfl

end Parameters

end SelectQuery
