namespace SelectQuery

namespace Entries

variable {α : Type}

abbrev Ordered (entries : List (String × α)) : Prop := entries.Pairwise fun a b => a.1 < b.1

def insert (name : String) (value : α) : List (String × α) → List (String × α)
  | [] => [(name, value)]
  | (n, v) :: rest =>
    if name < n then (name, value) :: (n, v) :: rest
    else if name = n then (name, value) :: rest
    else (n, v) :: insert name value rest

def ofList (entries : List (String × α)) : List (String × α) :=
  entries.foldl (fun sorted entry => insert entry.1 entry.2 sorted) []

theorem mem_insert {name : String} {value : α} {entry : String × α} :
    ∀ {entries : List (String × α)}, entry ∈ insert name value entries →
      entry = (name, value) ∨ entry ∈ entries
  | [], h => by simpa [insert] using h
  | (n, v) :: rest, h => by
    rw [insert] at h
    split at h
    · simpa using h
    · split at h
      · rcases List.mem_cons.mp h with h | h
        · exact Or.inl h
        · exact Or.inr (List.mem_cons_of_mem _ h)
      · rcases List.mem_cons.mp h with h | h
        · exact Or.inr (h ▸ List.mem_cons_self)
        · exact (mem_insert h).imp id (List.mem_cons_of_mem _)

theorem lt_of_not_lt_of_ne {a b : String} (h : ¬ a < b) (hne : a ≠ b) : b < a := by
  rcases String.le_total a b with hab | hab
  · exact absurd (String.le_antisymm hab (String.not_lt.mp h)) hne
  · exact Decidable.byContradiction fun hba => hne (String.le_antisymm (String.not_lt.mp hba) hab)

theorem ordered_insert (name : String) (value : α) :
    ∀ {entries : List (String × α)}, Ordered entries → Ordered (insert name value entries)
  | [], _ => by simp [insert, Ordered]
  | (n, v) :: rest, h => by
    obtain ⟨hn, hrest⟩ := List.pairwise_cons.mp h
    rw [insert]
    split
    · next hlt =>
      refine List.pairwise_cons.mpr ⟨fun entry hm => ?_, h⟩
      rcases List.mem_cons.mp hm with rfl | hm
      · exact hlt
      · exact String.lt_trans hlt (hn entry hm)
    · next hlt =>
      split
      · next heq =>
        subst heq
        exact List.pairwise_cons.mpr ⟨hn, hrest⟩
      · next hne =>
        refine List.pairwise_cons.mpr ⟨fun entry hm => ?_, ordered_insert name value hrest⟩
        rcases mem_insert hm with rfl | hm
        · exact lt_of_not_lt_of_ne hlt hne
        · exact hn entry hm

theorem ordered_foldl_insert (entries : List (String × α)) :
    ∀ {sorted : List (String × α)}, Ordered sorted →
      Ordered (entries.foldl (fun sorted entry => insert entry.1 entry.2 sorted) sorted) := by
  induction entries with
  | nil => exact id
  | cons entry entries ih => exact fun h => ih (ordered_insert entry.1 entry.2 h)

theorem ordered_ofList (entries : List (String × α)) : Ordered (ofList entries) :=
  ordered_foldl_insert entries List.Pairwise.nil

theorem lookup_cons (name : String) (value : α) (rest : List (String × α)) (query : String) :
    List.lookup query ((name, value) :: rest) =
      if query = name then some value else rest.lookup query := by
  rw [List.lookup_cons]
  by_cases h : query = name
  · simp [h]
  · simp [h, beq_false_of_ne h]

theorem lookup_insert (name : String) (value : α) (query : String) :
    ∀ (entries : List (String × α)), (insert name value entries).lookup query =
      if query = name then some value else entries.lookup query
  | [] => lookup_cons name value [] query
  | (n, v) :: rest => by
    rw [insert]
    split
    · rw [lookup_cons]
    · split
      · next h =>
        subst h
        by_cases h : query = name <;> simp only [lookup_cons, h, ↓reduceIte]
      · next hne =>
        by_cases hq : query = n
        · subst hq
          simp only [lookup_cons, ↓reduceIte, Ne.symm hne]
        · simp only [lookup_cons, hq, ↓reduceIte, lookup_insert name value query rest]

end Entries

structure NameMap (α : Type) where
  entries : List (String × α) := []
  ordered : Entries.Ordered entries := by exact List.Pairwise.nil

namespace NameMap

variable {α : Type}

def empty : NameMap α := {}

def insert (map : NameMap α) (name : String) (value : α) : NameMap α :=
  ⟨Entries.insert name value map.entries, Entries.ordered_insert name value map.ordered⟩

def ofList (entries : List (String × α)) : NameMap α :=
  ⟨Entries.ofList entries, Entries.ordered_ofList entries⟩

def get? (map : NameMap α) (name : String) : Option α := map.entries.lookup name

def names (map : NameMap α) : List String := map.entries.map Prod.fst

def size (map : NameMap α) : Nat := map.entries.length

def isEmpty (map : NameMap α) : Bool := map.entries.isEmpty

theorem get?_insert (map : NameMap α) (name : String) (value : α) (query : String) :
    (map.insert name value).get? query = if query = name then some value else map.get? query :=
  Entries.lookup_insert name value query map.entries

end NameMap

end SelectQuery
