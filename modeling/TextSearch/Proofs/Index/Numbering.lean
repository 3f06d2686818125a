import Mathlib.Data.List.Induction
import TextSearch.Proofs.Index.Survivors

/-!
# Slots are numbers of insertions

The counter of an index goes up by one with every document that is put in, and no change ever takes
it back.  So the slots that a history hands out are the numbers of its insertions, beginning with
zero: none is handed out twice, whatever has been removed, replaced or cleared in between, and the
slot of a live document is the number of its last addition.

The counter has no bound here.  A history with fewer than `2 ^ 64` insertions does not take it
beyond `2 ^ 64`.

Main results:

- Theorem `handedOut_eq_range'`: what a history hands out, insertion by insertion.
- Theorem `numbered_after`: a live document is in the slot with the number of its last addition.
- Theorem `slotOf?_foldl_apply`: changes that do not mention an identifier leave its slot alone.
- Theorem `slots_never_reused`: all of this of every history.
-/

namespace TextSearch

/-! ## Insertions -/

/-- The documents that a change puts in, one after the other: none if the change is refused. -/
def Change.inserted : Change → List Document
  | .add document => if document.isAddressable then [document] else []
  | .update document => if document.isAddressable then [document] else []
  | .addAll documents => if documents.all Document.isAddressable then documents else []
  | .remove _ => []
  | .clear => []

/-- The documents that a history puts in, one after the other. -/
def insertions (changes : List Change) : List Document :=
  changes.flatMap Change.inserted

/-- The document was put in with the given number, and none with its identifier was put in later. -/
structure IsLastAddition (added : List Document) (number : Nat) (document : Document) : Prop where
  getElem?_eq : added[number]? = some document
  last : ∀ later other, number < later → added[later]? = some other → other.id ≠ document.id

namespace IsLastAddition

variable {added : List Document} {number : Nat} {document : Document}

/-- The document that is put in last has no later one. -/
theorem append_singleton (added : List Document) (document : Document) :
    IsLastAddition (added ++ [document]) added.length document where
  getElem?_eq := List.getElem?_concat_length
  last := by
    intro later other hlater hother
    rw [List.getElem?_eq_none (by simp; omega)] at hother
    contradiction

/-- A document with another identifier may be put in behind it. -/
theorem append (h : IsLastAddition added number document) {next : Document}
    (hid : document.id ≠ next.id) : IsLastAddition (added ++ [next]) number document where
  getElem?_eq := by
    obtain ⟨hlt, -⟩ := List.getElem?_eq_some_iff.mp h.getElem?_eq
    rw [List.getElem?_append_left hlt]
    exact h.getElem?_eq
  last := by
    intro later other hlater hother
    by_cases hlt : later < added.length
    · rw [List.getElem?_append_left hlt] at hother
      exact h.last later other hlater hother
    · rw [List.getElem?_append_right (Nat.le_of_not_lt hlt), List.getElem?_singleton] at hother
      split at hother
      · rw [← Option.some.inj hother]
        exact hid.symm
      · contradiction

end IsLastAddition

namespace Index

/-! ## Slots that are handed out -/

/-- The slots in which documents are found when each of them has just been put in. -/
def slotsGiven (index : Index) : List Document → List Slot
  | [] => []
  | document :: rest =>
    let next := index.insert document.analyze
    (next.slotOf? document.id).toList ++ next.slotsGiven rest

/-- The slot that an addition tells. -/
def slotTold : Except IndexError (Index × Slot) → List Slot
  | .ok (_, slot) => [slot]
  | .error _ => []

/-- The slots that a change hands out, one after the other. -/
def slotsOf (index : Index) : Change → List Slot
  | .add document => slotTold (index.add document)
  | .update document => slotTold (index.update document)
  | .addAll documents =>
    match index.addAll documents with
    | .ok _ => index.slotsGiven documents
    | .error _ => []
  | .remove _ => []
  | .clear => []

/-- The slots that the changes hand out, one after the other. -/
def handedOut (index : Index) : List Change → List Slot
  | [] => []
  | change :: rest => index.slotsOf change ++ (index.apply change).handedOut rest

/-- The slots given to a batch are consecutive, from the next free one on. -/
theorem slotsGiven_eq_range' (index : Index) (documents : List Document) :
    index.slotsGiven documents = List.range' index.nextSlot documents.length := by
  induction documents generalizing index with
  | nil => rfl
  | cons document rest ih =>
    have hslot : (index.insert document.analyze).slotOf? document.id = some index.nextSlot := by
      rw [slotOf?_insert, Document.document_analyze, if_pos rfl]
    rw [slotsGiven, hslot, ih, nextSlot_insert, List.length_cons, List.range'_succ]
    rfl

/-- Every insertion takes the counter to the next slot. -/
theorem nextSlot_insertAll (index : Index) (documents : List Document) :
    (index.insertAll (documents.map Document.analyze)).nextSlot =
      index.nextSlot + documents.length := by
  unfold insertAll
  induction documents generalizing index with
  | nil => rfl
  | cons document rest ih =>
    rw [List.map_cons, List.foldl_cons, ih, nextSlot_insert, List.length_cons, Nat.add_assoc,
      Nat.add_comm 1]

/-- A change puts its documents in, if it has any; others take a document out or clear the index. -/
theorem apply_eq_insertAll_or (index : Index) (change : Change) :
    index.apply change = index.insertAll (change.inserted.map Document.analyze) ∨
      change.inserted = [] ∧ ((∃ id, change = .remove id) ∨ change = .clear) := by
  cases change with
  | add document =>
    left
    rw [apply_add, Change.inserted]
    split <;> rfl
  | update document =>
    left
    rw [apply_update, apply_add, Change.inserted]
    split <;> rfl
  | addAll documents =>
    left
    rw [apply_addAll, Change.inserted]
    split <;> rfl
  | remove id => exact Or.inr ⟨rfl, Or.inl ⟨id, rfl⟩⟩
  | clear => exact Or.inr ⟨rfl, Or.inr rfl⟩

/-- Each change moves the next slot by the number of documents it inserts. -/
theorem nextSlot_apply (index : Index) (change : Change) :
    (index.apply change).nextSlot = index.nextSlot + change.inserted.length := by
  rcases index.apply_eq_insertAll_or change with hinsert | ⟨-, ⟨id, rfl⟩ | rfl⟩
  · rw [hinsert, nextSlot_insertAll]
  · exact nextSlot_remove index id
  · rfl

/-- A change hands out the slots that follow the counter, one for each document that it puts in. -/
theorem slotsOf_eq_range' (index : Index) (change : Change) :
    index.slotsOf change = List.range' index.nextSlot change.inserted.length := by
  have hadd : ∀ document, slotTold (index.add document) =
      List.range' index.nextSlot (Change.add document).inserted.length := by
    intro document
    rw [add, Change.inserted]
    split <;> rfl
  cases change with
  | add document => exact hadd document
  | update document => exact hadd document
  | addAll documents =>
    rw [slotsOf, addAll, Change.inserted]
    by_cases hall : documents.all Document.isAddressable = true
    · rw [if_pos hall, if_pos hall]
      exact slotsGiven_eq_range' index documents
    · rw [if_neg hall, if_neg hall]
      rfl
  | remove id => rfl
  | clear => rfl

/-- Changes hand out the slots that follow the counter, one for each document that they put in. -/
theorem handedOut_eq_range' (index : Index) (changes : List Change) :
    index.handedOut changes = List.range' index.nextSlot (insertions changes).length := by
  induction changes generalizing index with
  | nil => rfl
  | cons change rest ih =>
    rw [handedOut, slotsOf_eq_range', ih, nextSlot_apply, List.range'_append_1]
    simp [insertions]

/-! ## The slots of live documents -/

/-- After the given insertions, the counter is their number, and every live document is in the slot
with the number of its last addition. -/
structure Numbered (added : List Document) (index : Index) : Prop where
  sound : index.Sound
  nextSlot_eq : index.nextSlot = added.length
  isLastAddition : ∀ slot entry, index.entryAt? slot = some entry →
    IsLastAddition added slot entry.document

namespace Numbered

variable {added : List Document} {index : Index}

theorem empty : Numbered [] Index.empty where
  sound := sound_empty
  nextSlot_eq := rfl
  isLastAddition := by
    intro slot entry h
    contradiction

/-- An inserted document takes the next number. -/
theorem insert (h : Numbered added index) (document : Document) :
    Numbered (added ++ [document]) (index.insert document.analyze) where
  sound := sound_insert h.sound document
  nextSlot_eq := by
    rw [nextSlot_insert, h.nextSlot_eq, List.length_append, List.length_singleton]
  isLastAddition := by
    intro slot entry hentry
    rcases (h.sound.entryAt?_insert_eq_some_iff document slot entry).mp hentry with hnew | hold
    · rw [hnew.1, hnew.2, h.nextSlot_eq]
      exact IsLastAddition.append_singleton added document
    · exact (h.isLastAddition slot entry hold.1).append hold.2

/-- A batch takes the next numbers in its order. -/
theorem insertAll (h : Numbered added index) (documents : List Document) :
    Numbered (added ++ documents) (index.insertAll (documents.map Document.analyze)) := by
  unfold Index.insertAll
  induction documents generalizing added index with
  | nil =>
    rw [List.append_nil]
    exact h
  | cons document rest ih =>
    rw [List.append_cons]
    exact ih (h.insert document)

theorem remove (h : Numbered added index) (id : String) : Numbered added (index.remove id).1 where
  sound := sound_remove h.sound id
  nextSlot_eq := by
    rw [nextSlot_remove, h.nextSlot_eq]
  isLastAddition := by
    intro slot entry hentry
    rw [h.sound.entryAt?_remove_eq_some_iff] at hentry
    exact h.isLastAddition slot entry hentry.1

theorem clear (h : Numbered added index) : Numbered added index.clear where
  sound := sound_clear index
  nextSlot_eq := h.nextSlot_eq
  isLastAddition := by
    intro slot entry hentry
    contradiction

/-- A change numbers the documents that it puts in. -/
theorem apply (h : Numbered added index) (change : Change) :
    Numbered (added ++ change.inserted) (index.apply change) := by
  rcases index.apply_eq_insertAll_or change with hinsert | ⟨hnone, ⟨id, rfl⟩ | rfl⟩
  · rw [hinsert]
    exact h.insertAll change.inserted
  · rw [hnone, List.append_nil]
    exact h.remove id
  · rw [hnone, List.append_nil]
    exact h.clear

end Numbered

/-- A live document is in the slot with the number of its last addition. -/
theorem numbered_after (changes : List Change) :
    Numbered (insertions changes) (after changes) := by
  induction changes using List.reverseRecOn with
  | nil => exact Numbered.empty
  | append_singleton changes change ih =>
    rw [after, List.foldl_append, ← after]
    simpa [insertions] using ih.apply change

end Index

/-! ## Changes that speak of other identifiers -/

/-- The change says something about the identifier. -/
def Change.Mentions (id : String) : Change → Prop
  | .add document => document.id = id
  | .update document => document.id = id
  | .addAll documents => ∃ document ∈ documents, document.id = id
  | .remove other => other = id
  | .clear => True

/-- A change mentions the id of every document it inserts. -/
theorem Change.mentions_of_mem_inserted (change : Change) {document : Document} {id : String}
    (hmem : document ∈ change.inserted) (hid : document.id = id) : change.Mentions id := by
  unfold Change.inserted at hmem
  split at hmem
  · rw [List.mem_ite_nil_right, List.mem_singleton] at hmem
    rw [hmem.2] at hid
    exact hid
  · rw [List.mem_ite_nil_right, List.mem_singleton] at hmem
    rw [hmem.2] at hid
    exact hid
  · rw [List.mem_ite_nil_right] at hmem
    exact ⟨document, hmem.2, hid⟩
  · contradiction
  · contradiction

namespace Index

/-- A batch without an id leaves the slot of that id alone. -/
theorem slotOf?_insertAll {id : String} (index : Index) {documents : List Document}
    (h : ∀ document ∈ documents, document.id ≠ id) :
    (index.insertAll (documents.map Document.analyze)).slotOf? id = index.slotOf? id := by
  unfold insertAll
  induction documents generalizing index with
  | nil => rfl
  | cons document rest ih =>
    rw [List.forall_mem_cons] at h
    rw [List.map_cons, List.foldl_cons, ih _ h.2, slotOf?_insert, Document.document_analyze,
      if_neg h.1.symm]

/-- A change that does not mention an identifier leaves its slot alone. -/
theorem slotOf?_apply {id : String} (index : Index) {change : Change} (h : ¬ change.Mentions id) :
    (index.apply change).slotOf? id = index.slotOf? id := by
  rcases index.apply_eq_insertAll_or change with hinsert | ⟨-, ⟨other, rfl⟩ | rfl⟩
  · rw [hinsert]
    refine slotOf?_insertAll index fun document hmem hid => ?_
    exact h (change.mentions_of_mem_inserted hmem hid)
  · exact (slotOf?_remove index other id).trans (if_neg fun heq => h heq.symm)
  · exact absurd trivial h

/-- Changes that do not mention an identifier leave its slot alone. -/
theorem slotOf?_foldl_apply {id : String} (index : Index) {changes : List Change}
    (h : ∀ change ∈ changes, ¬ change.Mentions id) :
    (changes.foldl apply index).slotOf? id = index.slotOf? id := by
  induction changes generalizing index with
  | nil => rfl
  | cons change rest ih =>
    rw [List.forall_mem_cons] at h
    rw [List.foldl_cons, ih _ h.2, slotOf?_apply index h.1]

/-! ## Every history -/

/-- Every slot in the three tables is below the next one. -/
theorem Sound.lt_nextSlot {index : Index} (h : index.Sound) :
    (∀ id slot, index.slotOf? id = some slot → slot < index.nextSlot) ∧
      (∀ slot entry, index.entryAt? slot = some entry → slot < index.nextSlot) ∧
      ∀ term slot, slot ∈ index.postings.slots term → slot < index.nextSlot := by
  refine ⟨?_, h.below, ?_⟩
  · intro id slot hslot
    obtain ⟨entry, hentry, -⟩ := (h.registered id slot).mp hslot
    exact h.below slot entry hentry
  · intro term slot hslot
    obtain ⟨entry, hentry, -⟩ := (h.mem_slots_iff term slot).mp hslot
    exact h.below slot entry hentry

/-- Slots are handed out in ascending order, one for each insertion, and stay below the counter,
which is the number of insertions; so do the slots in the three tables.  Changes that do not mention
an identifier leave its slot alone.  The slot of a live document is the number of its last addition,
so the documents by ascending slots are the survivors in the order of their last additions. -/
theorem slots_never_reused (changes : List Change) :
    ((empty.handedOut changes).Pairwise (· < ·) ∧
        (empty.handedOut changes).length = (insertions changes).length ∧
        (after changes).nextSlot = (insertions changes).length ∧
        ∀ slot ∈ empty.handedOut changes, slot < (after changes).nextSlot) ∧
      ((∀ id slot, (after changes).slotOf? id = some slot → slot < (after changes).nextSlot) ∧
        (∀ slot entry, (after changes).entryAt? slot = some entry →
          slot < (after changes).nextSlot) ∧
        ∀ term slot, slot ∈ (after changes).postings.slots term →
          slot < (after changes).nextSlot) ∧
      (∀ id later, (∀ change ∈ later, ¬ change.Mentions id) →
        (after (changes ++ later)).slotOf? id = (after changes).slotOf? id) ∧
      (∀ slot entry, (after changes).entryAt? slot = some entry →
        IsLastAddition (insertions changes) slot entry.document) ∧
      (after changes).entries.values.map Entry.document = survivors changes := by
  have hnumbered := numbered_after changes
  have hhanded := handedOut_eq_range' empty changes
  refine ⟨⟨?_, ?_, hnumbered.nextSlot_eq, ?_⟩, hnumbered.sound.lt_nextSlot, ?_,
    hnumbered.isLastAddition, ?_⟩
  · rw [hhanded]
    exact List.pairwise_lt_range'
  · rw [hhanded, List.length_range']
  · intro slot hslot
    rw [hhanded, List.mem_range'_1] at hslot
    rw [hnumbered.nextSlot_eq]
    simpa [empty] using hslot.2
  · intro id later hlater
    rw [after, List.foldl_append, slotOf?_foldl_apply _ hlater]
    rfl
  · rw [(holds_after changes).values_eq, List.map_map]
    exact (List.map_congr_left fun document _ => document.document_analyze).trans (List.map_id _)

/-- A replacement inside a batch, a removal, a clearing and a new addition; what follows is about
other documents. -/
theorem slots_never_reused_cleared :
    ∃ changes later : List Change,
      changes = [.addAll [.page "a" "one" "" .epoch, .page "b" "" "" .epoch,
          .page "a" "two" "" .epoch], .remove "b", .clear, .add (.page "c" "" "" .epoch)] ∧
      later = [.update (.page "b" "new" "" .epoch), .remove "a"] ∧
      (∀ change ∈ later, ¬ change.Mentions "c") ∧
      (after (changes ++ later)).slotOf? "c" = (after changes).slotOf? "c" ∧
      (empty.handedOut changes).Pairwise (· < ·) ∧ (empty.handedOut changes).length = 4 ∧
      (after changes).nextSlot = 4 := by
  refine ⟨_, _, rfl, rfl, ?_⟩
  have hlater : ∀ change ∈ [Change.update (.page "b" "new" "" .epoch), .remove "a"],
      ¬ change.Mentions "c" := by
    simp [Change.Mentions, Document.page]
  obtain ⟨⟨hascending, hlength, hnext, -⟩, -, hkept, -⟩ := slots_never_reused [.addAll [
    .page "a" "one" "" .epoch, .page "b" "" "" .epoch, .page "a" "two" "" .epoch], .remove "b",
    .clear, .add (.page "c" "" "" .epoch)]
  refine ⟨hlater, hkept "c" _ hlater, hascending, ?_, ?_⟩
  · rw [hlength]
    decide +kernel
  · rw [hnext]
    decide +kernel

end Index
end TextSearch
