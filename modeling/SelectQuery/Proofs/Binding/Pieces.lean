import SelectQuery.Proofs.Binding.Seams

/-! Texts that are put together from fixed words and from fragments: the parameters of the text are
those of its fragments. -/

namespace SelectQuery.Binding

/-- A part of a text. A fragment may hold anything, and belongs to someone. -/
inductive Piece (α : Type)
  | words (text : String)
  | fragment (owner : α) (text : String)

structure Fragment (α : Type) where
  owner : α
  text : String

def Fragment.IsClosed {α : Type} (dialect : Dialect) (f : Fragment α) : Prop :=
  Closed dialect f.text.toList

instance {α : Type} (dialect : Dialect) (f : Fragment α) : Decidable (f.IsClosed dialect) :=
  inferInstanceAs (Decidable (Closed dialect f.text.toList))

def Fragment.names {α : Type} (dialect : Dialect) (f : Fragment α) : List String :=
  Binding.names (tokens dialect f.text.toList)

variable {α : Type} {dialect : Dialect}

namespace Piece

def text : Piece α → String
  | words text => text
  | fragment _ text => text

def fragment? : Piece α → Option (Fragment α)
  | words _ => none
  | fragment owner text => some ⟨owner, text⟩

def spell : List (Piece α) → String
  | [] => ""
  | p :: ps => p.text ++ spell ps

lemma spell_append (ps qs : List (Piece α)) : spell (ps ++ qs) = spell ps ++ spell qs := by
  induction ps with
  | nil => rw [List.nil_append, spell, String.empty_append]
  | cons p ps ih => rw [List.cons_append, spell, spell, ih, String.append_assoc]

end Piece

open Piece

def fragments (ps : List (Piece α)) : List (Fragment α) := ps.filterMap Piece.fragment?

def Every (P : Fragment α → Prop) (ps : List (Piece α)) : Prop := ∀ f ∈ fragments ps, P f

section Every

variable {P : Fragment α → Prop} {ps qs : List (Piece α)}

lemma every_nil : Every P [] := nofun

lemma every_append : Every P (ps ++ qs) ↔ Every P ps ∧ Every P qs := by
  rw [Every, fragments, List.filterMap_append, List.forall_mem_append]
  rfl

lemma every_words {text : String} : Every P (.words text :: ps) ↔ Every P ps := Iff.rfl

lemma every_fragment {owner : α} {text : String} :
    Every P (.fragment owner text :: ps) ↔ P ⟨owner, text⟩ ∧ Every P ps :=
  List.forall_mem_cons

lemma every_flatMap {β : Type} {bs : List β} {f : β → List (Piece α)} :
    Every P (bs.flatMap f) ↔ ∀ b ∈ bs, Every P (f b) := by
  induction bs with
  | nil => exact ⟨fun _ => nofun, fun _ => every_nil⟩
  | cons b bs ih => rw [List.flatMap_cons, every_append, List.forall_mem_cons, ih]

lemma every_intercalate {text : String} {pss : List (List (Piece α))} :
    Every P (List.intercalate [.words text] pss) ↔ ∀ ps ∈ pss, Every P ps := by
  induction pss with
  | nil => exact ⟨fun _ => nofun, fun _ => every_nil⟩
  | cons ps pss ih =>
    cases pss with
    | nil => simp [List.intercalate]
    | cons qs pss =>
      rw [List.intercalate_cons_cons, every_append, every_append, ih,
        and_iff_left (every_words.mpr every_nil)]
      exact List.forall_mem_cons.symm

end Every

def Plain (text : String) : Prop := text.toList.all isPlain = true

lemma isPlain_of_isDigit {c : Char} (h : c.isDigit = true) : isPlain c = true := by
  simp only [isPlain, List.mem_cons, List.not_mem_nil, or_false, decide_eq_true_eq]
  rintro (rfl | rfl | rfl | rfl | rfl | rfl | rfl) <;> cases h

lemma plain_ofNat (n : Nat) : Plain (Text.ofNat n) := by
  rw [Plain, Text.ofNat, String.toList_ofList, List.all_eq_true]
  intro c hc
  exact isPlain_of_isDigit (Nat.isDigit_of_mem_toDigits (by decide) (by decide) hc)

lemma plain_append {a b : String} : Plain (a ++ b) ↔ Plain a ∧ Plain b := by
  rw [Plain, String.toList_append, List.all_append, Bool.and_eq_true]
  rfl

inductive Joined (dialect : Dialect) : List (Piece α) → Prop
  | nil : Joined dialect []
  | words {text ps} : Plain text → Joined dialect ps → Joined dialect (.words text :: ps)
  | fragment {owner text ps} : Closed dialect text.toList → Seam (spell ps).toList →
      Joined dialect ps → Joined dialect (.fragment owner text :: ps)

structure Continues (dialect : Dialect) (ps : List (Piece α)) : Prop where
  joined : Joined dialect ps
  seam : Seam (spell ps).toList

lemma Seam.append {cs ds : List Char} (hc : Seam cs) (hd : Seam ds) : Seam (cs ++ ds) := by
  cases cs with
  | nil => exact hd
  | cons c cs => exact hc

lemma seam_nil : Seam [] := nofun

lemma seam_cons {c : Char} (h : isSeam c = true) (cs : List Char) : Seam (c :: cs) := by
  intro d hd
  cases Option.some.inj hd
  exact h

section Compose

variable {ps qs : List (Piece α)}

lemma Joined.append (hp : Joined dialect ps) (hq : Continues dialect qs) :
    Joined dialect (ps ++ qs) := by
  induction hp with
  | nil => exact hq.joined
  | words ht _ ih => exact .words ht ih
  | @fragment _ _ ps hc hs _ ih =>
    have hseam : Seam (spell (ps ++ qs)).toList := by
      rw [spell_append, String.toList_append]
      exact hs.append hq.seam
    exact .fragment hc hseam ih

lemma Continues.nil : Continues dialect ([] : List (Piece α)) := ⟨.nil, seam_nil⟩

lemma Continues.append (hp : Continues dialect ps) (hq : Continues dialect qs) :
    Continues dialect (ps ++ qs) := by
  refine ⟨hp.joined.append hq, ?_⟩
  rw [spell_append, String.toList_append]
  exact hp.seam.append hq.seam

lemma Continues.words {text : String} (hseam : text.toList.head?.any isSeam = true)
    (hplain : Plain text) (hp : Joined dialect ps) : Continues dialect (.words text :: ps) := by
  refine ⟨.words hplain hp, ?_⟩
  rw [spell, Piece.text, String.toList_append]
  cases ht : text.toList with
  | nil =>
    rw [ht] at hseam
    cases hseam
  | cons c cs =>
    rw [ht] at hseam
    exact seam_cons hseam _

lemma Continues.flatMap {β : Type} {bs : List β} {f : β → List (Piece α)}
    (h : ∀ b ∈ bs, Continues dialect (f b)) : Continues dialect (bs.flatMap f) := by
  induction bs with
  | nil => exact .nil
  | cons b bs ih =>
    obtain ⟨hb, hbs⟩ := List.forall_mem_cons.mp h
    rw [List.flatMap_cons]
    exact hb.append (ih hbs)

lemma Joined.single {owner : α} {text : String} (h : Closed dialect text.toList) :
    Joined dialect [.fragment owner text] :=
  .fragment h seam_nil .nil

end Compose

lemma names_other (cs : List Char) : names (cs.map .other) = [] := by
  rw [names, List.filterMap_map]
  exact List.filterMap_eq_nil_iff.mpr fun _ _ => rfl

lemma flatMap_source_other (cs : List Char) : (cs.map Token.other).flatMap Token.source = cs := by
  rw [List.flatMap_map]
  exact List.flatMap_singleton' cs

lemma names_tokens_spell {ps : List (Piece α)} (h : Joined dialect ps) :
    names (tokens dialect (spell ps).toList) = (fragments ps).flatMap (Fragment.names dialect) := by
  induction h with
  | nil =>
    rw [spell, String.toList_empty, tokens]
    rfl
  | @words text ps ht _ ih =>
    have hplain : ∀ c ∈ text.toList, isPlain c = true := List.all_eq_true.mp ht
    rw [spell, Piece.text, String.toList_append, tokens_plain_append hplain, names_append,
      names_other, ih]
    rfl
  | @fragment owner text ps hc hs _ ih =>
    rw [spell, Piece.text, String.toList_append, tokens_append hc hs, names_append, ih]
    rfl

end SelectQuery.Binding
