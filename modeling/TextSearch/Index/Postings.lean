import TextSearch.Index.SlotSet
import TextSearch.Index.Table
import TextSearch.Text.Terms

/-!
# Postings

Under each term the slots of the documents that have it.  A term whose last slot is taken away
disappears, so no term has an empty set of slots.

Main statements: `Postings.mem_slots_insert` and `Postings.mem_slots_retract` describe the table as
a set of pairs of a term and a slot.
-/

namespace TextSearch

/-- Sets of slots under terms. -/
structure Postings where
  lists : Table String SlotSet
  deriving Inhabited

namespace Postings

/-- No postings. -/
def empty : Postings :=
  ⟨.empty⟩

/-- The slots under a term, if there are any. -/
def find? (postings : Postings) (term : String) : Option SlotSet :=
  postings.lists.find? term

/-- The slots under a term. -/
def slots (postings : Postings) (term : String) : SlotSet :=
  (postings.find? term).getD .empty

/-- Put a slot under a term. -/
def insert (postings : Postings) (term : String) (slot : Slot) : Postings :=
  match postings.find? term with
  | some slots => ⟨postings.lists.insert term (slots.insert slot)⟩
  | none => ⟨postings.lists.insert term (.singleton slot)⟩

/-- Take a slot away from a term, and say whether it was there. -/
def retract (postings : Postings) (term : String) (slot : Slot) : Postings × Bool :=
  match postings.find? term with
  | none => (postings, false)
  | some slots =>
    let rest := slots.erase slot
    if rest.isEmpty then (⟨postings.lists.erase term⟩, slot ∈ slots)
    else (⟨postings.lists.insert term rest⟩, slot ∈ slots)

/-- Put a slot under every term of a list. -/
def insertAll (postings : Postings) (terms : List String) (slot : Slot) : Postings :=
  terms.foldl (fun postings term => postings.insert term slot) postings

/-- Take a slot away from every term of a list. -/
def retractAll (postings : Postings) (terms : List String) (slot : Slot) : Postings :=
  terms.foldl (fun postings term => (postings.retract term slot).1) postings

/-- The number of slots under a term. -/
def frequency (postings : Postings) (term : String) : Nat :=
  (postings.slots term).size

/-- The number of terms. -/
def termCount (postings : Postings) : Nat :=
  postings.lists.size

/-- The number of pairs of a term and a slot. -/
def total (postings : Postings) : Nat :=
  (postings.lists.values.map SlotSet.size).foldr (· + ·) 0

/-- All slots under the terms that pass a test. -/
def unionMatching (postings : Postings) (accept : String → Bool) : SlotSet :=
  postings.lists.entries.foldl
    (fun found (term, slots) => if accept term then found.union slots else found) .empty

/-- The text begins with another one and goes on behind it. -/
def goesOn (beginning text : List Char) : Bool :=
  beginning.length < text.length && Text.beginsWith (· == ·) beginning text

/-- The first terms, up to a limit, that begin with a text and are longer. -/
def completions (postings : Postings) (beginning : String) (limit : Nat) : List String :=
  (postings.lists.keys.filter fun term => goesOn beginning.toList term.toList).take limit

/-! ## Postings as a set of pairs -/

@[simp]
theorem find?_empty (term : String) : empty.find? term = none :=
  rfl

/-- Inserting changes the list of the one term. -/
theorem find?_insert (postings : Postings) (term : String) (slot : Slot) (term' : String) :
    (postings.insert term slot).find? term' =
      if term' = term then some ((postings.slots term).insert slot) else postings.find? term' := by
  unfold insert slots
  split
  · rename_i slots h
    simp only [find?] at h ⊢
    simp [Table.find?_insert, h]
  · rename_i h
    have : SlotSet.singleton slot = SlotSet.empty.insert slot :=
      SlotSet.ext fun n => by simp
    simp only [find?] at h ⊢
    simp [Table.find?_insert, h, this]

/-- A slot is found under the term that it was put under. -/
theorem mem_slots_insert {postings : Postings} {term term' : String} {slot slot' : Slot} :
    slot' ∈ (postings.insert term slot).slots term' ↔
      (term' = term ∧ slot' = slot) ∨ slot' ∈ postings.slots term' := by
  rw [slots, find?_insert]
  by_cases h : term' = term
  · subst h
    simp [slots]
  · simp [h, slots]

/-- Retracting changes the list of the one term, and drops the list when nothing is left in it. -/
theorem find?_retract (postings : Postings) (term : String) (slot : Slot) (term' : String) :
    (postings.retract term slot).1.find? term' =
      if term' = term then
        (postings.find? term).bind fun slots =>
          if (slots.erase slot).isEmpty then none else some (slots.erase slot)
      else postings.find? term' := by
  unfold retract
  split
  · rename_i h
    by_cases h' : term' = term
    · subst h'
      simp [h]
    · simp [h']
  · rename_i slots h
    by_cases he : (slots.erase slot).isEmpty
    · by_cases h' : term' = term <;> simp_all [find?, Table.find?_erase]
    · by_cases h' : term' = term <;> simp_all [find?, Table.find?_insert]

/-- A slot that was taken away from a term is no longer found there. -/
theorem mem_slots_retract {postings : Postings} {term term' : String} {slot slot' : Slot} :
    slot' ∈ (postings.retract term slot).1.slots term' ↔
      slot' ∈ postings.slots term' ∧ ¬ (term' = term ∧ slot' = slot) := by
  rw [slots, find?_retract]
  by_cases h : term' = term
  · subst h
    cases hfind : postings.find? term' with
    | none => simp [slots, hfind]
    | some found =>
      by_cases he : (found.erase slot).isEmpty
      · have := SlotSet.isEmpty_iff.mp he slot'
        simp only [SlotSet.mem_erase, not_and, Decidable.not_not] at this
        simp only [slots, hfind, he, if_true, Option.bind_some, Option.getD_none,
          SlotSet.not_mem_empty, Option.getD_some, true_and, false_iff, not_and, Decidable.not_not]
        exact this
      · simp_all [slots]
  · simp [h, slots]

end Postings
end TextSearch
