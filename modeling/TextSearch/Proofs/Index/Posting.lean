import Mathlib.Tactic.ByContra
import Mathlib.Tactic.Tauto
import TextSearch.Index.Postings
import TextSearch.Proofs.Index.Tables

/-!
# Postings as a set of pairs

The operations on single terms are described in the module of the postings.  This module
describes the operations that an index uses: one slot under many terms, and the slots under all
terms that pass a test.

Main results:

- Theorems `mem_slots_insertAll` and `mem_slots_retractAll`: exactly the pairs of the given terms
  with the given slot are added, and exactly these are taken away.
- Theorems `allNonempty_insertAll` and `allNonempty_retractAll`: no term is left without a slot.
- Theorem `mem_unionMatching`: a slot is found if it is under some accepted term.
-/

namespace TextSearch
namespace Postings

/-- No term is listed with an empty set of slots. -/
def AllNonempty (postings : Postings) : Prop :=
  ∀ term slots, postings.find? term = some slots → slots.isEmpty = false

/-- A slot is listed under a term when the term has a list with it. -/
theorem mem_slots_iff {postings : Postings} {term : String} {slot : Slot} :
    slot ∈ postings.slots term ↔ ∃ slots, postings.find? term = some slots ∧ slot ∈ slots := by
  rw [slots]
  cases postings.find? term with
  | none => simp
  | some slots => simp

/-- A term without a list has no slots. -/
theorem slots_eq_of_find?_eq_none {postings : Postings} {term : String}
    (h : postings.find? term = none) : postings.slots term = .empty := by
  rw [slots, h]
  rfl

@[simp]
theorem not_mem_slots_empty (term : String) (slot : Slot) : ¬ slot ∈ empty.slots term := by
  rw [slots_eq_of_find?_eq_none (find?_empty term)]
  exact SlotSet.not_mem_empty slot

theorem allNonempty_empty : empty.AllNonempty := by
  intro term slots h
  rw [find?_empty] at h
  contradiction

/-- Where no term is empty, a term is listed if and only if there is a slot under it. -/
theorem AllNonempty.isSome_find?_iff {postings : Postings} (h : postings.AllNonempty)
    (term : String) :
    (postings.find? term).isSome = true ↔ ∃ slot, slot ∈ postings.slots term := by
  constructor
  · intro hsome
    rcases Option.isSome_iff_exists.mp hsome with ⟨slots, hfind⟩
    have hne := h term slots hfind
    by_contra hnone
    have hempty : slots.isEmpty = true := by
      rw [SlotSet.isEmpty_iff]
      intro slot hslot
      exact hnone ⟨slot, mem_slots_iff.mpr ⟨slots, hfind, hslot⟩⟩
    rw [hempty] at hne
    contradiction
  · rintro ⟨slot, hslot⟩
    rcases mem_slots_iff.mp hslot with ⟨slots, hfind, _⟩
    rw [hfind]
    rfl

/-- Where no term is empty, the terms that are listed are those with a slot. -/
theorem AllNonempty.mem_keys_iff {postings : Postings} (h : postings.AllNonempty)
    (term : String) : term ∈ postings.lists.keys ↔ ∃ slot, slot ∈ postings.slots term := by
  rw [Table.mem_keys_iff, ← h.isSome_find?_iff]
  rfl

/-- The number of postings, told from the terms that are listed. -/
theorem total_eq_sum_frequency (postings : Postings) :
    postings.total = (postings.lists.keys.map postings.frequency).foldr (· + ·) 0 := by
  rw [total, Table.values, Table.keys, List.map_map, List.map_map]
  refine congrArg (List.foldr (· + ·) 0) (List.map_congr_left fun e he => ?_)
  have hfind : postings.find? e.1 = some e.2 :=
    (Table.find?_eq_some_iff postings.lists e.1 e.2).mpr he
  simp [frequency, slots, hfind]

/-! ## One slot under many terms -/

/-- Putting a slot under terms adds the pairs of these terms with the slot, and no others. -/
theorem mem_slots_insertAll {postings : Postings} {terms : List String} {slot : Slot}
    {term' : String} {slot' : Slot} :
    slot' ∈ (postings.insertAll terms slot).slots term' ↔
      (term' ∈ terms ∧ slot' = slot) ∨ slot' ∈ postings.slots term' := by
  unfold insertAll
  induction terms generalizing postings with
  | nil => simp
  | cons term rest ih =>
    rw [List.foldl_cons, ih, mem_slots_insert, List.mem_cons]
    tauto

/-- Taking a slot away from terms removes the pairs of these terms with the slot, and no others. -/
theorem mem_slots_retractAll {postings : Postings} {terms : List String} {slot : Slot}
    {term' : String} {slot' : Slot} :
    slot' ∈ (postings.retractAll terms slot).slots term' ↔
      slot' ∈ postings.slots term' ∧ ¬ (term' ∈ terms ∧ slot' = slot) := by
  unfold retractAll
  induction terms generalizing postings with
  | nil => simp
  | cons term rest ih =>
    rw [List.foldl_cons, ih, mem_slots_retract, List.mem_cons]
    tauto

/-- Inserting makes no list empty. -/
theorem allNonempty_insert {postings : Postings} (h : postings.AllNonempty) (term : String)
    (slot : Slot) : (postings.insert term slot).AllNonempty := by
  intro term' slots hfind
  rw [find?_insert] at hfind
  split at hfind
  · have hslots : slots = (postings.slots term).insert slot := (Option.some.inj hfind).symm
    have hmem : slot ∈ slots := by
      rw [hslots]
      exact SlotSet.mem_insert.mpr (.inl rfl)
    cases hempty : slots.isEmpty with
    | false => rfl
    | true => exact absurd hmem (SlotSet.isEmpty_iff.mp hempty slot)
  · exact h term' slots hfind

/-- Retracting drops the lists that it makes empty. -/
theorem allNonempty_retract {postings : Postings} (h : postings.AllNonempty) (term : String)
    (slot : Slot) : (postings.retract term slot).1.AllNonempty := by
  intro term' slots hfind
  rw [find?_retract] at hfind
  split at hfind
  · rcases Option.bind_eq_some_iff.mp hfind with ⟨found, _, hrest⟩
    split at hrest
    · contradiction
    · rename_i hne
      rw [← Option.some.inj hrest]
      exact Bool.not_eq_true _ ▸ hne
  · exact h term' slots hfind

theorem allNonempty_insertAll {postings : Postings} (h : postings.AllNonempty)
    (terms : List String) (slot : Slot) : (postings.insertAll terms slot).AllNonempty := by
  unfold insertAll
  induction terms generalizing postings with
  | nil => exact h
  | cons term rest ih => exact ih (allNonempty_insert h term slot)

/-- Retracting a slot from many terms leaves no empty list behind. -/
theorem allNonempty_retractAll {postings : Postings} (h : postings.AllNonempty)
    (terms : List String) (slot : Slot) : (postings.retractAll terms slot).AllNonempty := by
  unfold retractAll
  induction terms generalizing postings with
  | nil => exact h
  | cons term rest ih => exact ih (allNonempty_retract h term slot)

/-! ## The slots under accepted terms -/

/-- The slots of a union over lists, begun with those found before. -/
theorem mem_foldl_union {accept : String → Bool} {lists : List (String × SlotSet)}
    {found : SlotSet} {slot : Slot} :
    slot ∈ lists.foldl (fun found (term, slots) =>
        if accept term then found.union slots else found) found ↔
      slot ∈ found ∨ ∃ term slots, (term, slots) ∈ lists ∧ accept term = true ∧ slot ∈ slots := by
  induction lists generalizing found with
  | nil => simp
  | cons head rest ih =>
    rcases head with ⟨term, slots⟩
    rw [List.foldl_cons, ih]
    cases haccept : accept term with
    | false =>
      simp only [haccept, Bool.false_eq_true, if_false]
      refine or_congr_right ⟨?_, ?_⟩
      · rintro ⟨term', slots', hmem, h⟩
        exact ⟨term', slots', List.mem_cons_of_mem _ hmem, h⟩
      · rintro ⟨term', slots', hmem, haccept', h⟩
        rcases List.mem_cons.mp hmem with heq | hmem
        · rw [(Prod.mk.inj heq).1, haccept] at haccept'
          contradiction
        · exact ⟨term', slots', hmem, haccept', h⟩
    | true =>
      simp only [haccept, if_true, SlotSet.mem_union, or_assoc]
      refine or_congr_right ⟨?_, ?_⟩
      · rintro (hslot | ⟨term', slots', hmem, h⟩)
        · exact ⟨term, slots, List.mem_cons_self, haccept, hslot⟩
        · exact ⟨term', slots', List.mem_cons_of_mem _ hmem, h⟩
      · rintro ⟨term', slots', hmem, haccept', hslot⟩
        rcases List.mem_cons.mp hmem with heq | hmem
        · rw [(Prod.mk.inj heq).2] at hslot
          exact .inl hslot
        · exact .inr ⟨term', slots', hmem, haccept', hslot⟩

/-- A slot is under an accepted term if and only if the union has it. -/
theorem mem_unionMatching {postings : Postings} {accept : String → Bool} {slot : Slot} :
    slot ∈ postings.unionMatching accept ↔
      ∃ term, accept term = true ∧ slot ∈ postings.slots term := by
  rw [unionMatching, mem_foldl_union]
  constructor
  · rintro (hnone | ⟨term, slots, hmem, haccept, hslot⟩)
    · exact absurd hnone (SlotSet.not_mem_empty slot)
    · refine ⟨term, haccept, mem_slots_iff.mpr ⟨slots, ?_, hslot⟩⟩
      exact (Table.find?_eq_some_iff _ _ _).mpr hmem
  · rintro ⟨term, haccept, hslot⟩
    rcases mem_slots_iff.mp hslot with ⟨slots, hfind, hslot⟩
    exact .inr ⟨term, slots, (Table.find?_eq_some_iff _ _ _).mp hfind, haccept, hslot⟩

end Postings
end TextSearch
