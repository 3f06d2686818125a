import TextSearch.Index.Basic
import TextSearch.Proofs.Index.Posting

/-!
# Histories of an index

A history is a list of changes, each of which may be refused.  What a whole history leaves is
reduced to three steps: putting one analysed document in, removing one identifier, and clearing.

Main results:

- Theorem `after_induction`: what holds of the empty index and is preserved by the three steps
  holds after every history.
- Theorems `slotOf?_remove`, `entryAt?_remove`, `mem_slots_remove`, `slotOf?_insert`,
  `entryAt?_insert` and `mem_slots_insert`: what the steps do to the three tables.
-/

namespace TextSearch

/-- A request to change what is indexed. -/
inductive Change where
  | add (document : Document)
  | update (document : Document)
  | addAll (documents : List Document)
  | remove (id : String)
  | clear

namespace Index

/-- The index after a change, or the index before it if the change is refused. -/
def keeping {α : Type} (index : Index) : Except IndexError (Index × α) → Index
  | .ok (changed, _) => changed
  | .error _ => index

/-- Carry out a change.  A change that is refused leaves everything as it is. -/
def apply (index : Index) : Change → Index
  | .add document => index.keeping (index.add document)
  | .update document => index.keeping (index.update document)
  | .addAll documents => index.keeping (index.addAll documents)
  | .remove id => (index.remove id).1
  | .clear => index.clear

/-- The index after a history that begins with nothing. -/
def after (changes : List Change) : Index :=
  changes.foldl apply empty

/-! ## Changes as steps -/

/-- Adding a document inserts its entry, or changes nothing when it has no id. -/
theorem apply_add (index : Index) (document : Document) :
    index.apply (.add document) =
      if document.isAddressable then index.insert document.analyze else index := by
  rw [apply, add]
  split <;> rfl

theorem apply_update (index : Index) (document : Document) :
    index.apply (.update document) = index.apply (.add document) :=
  rfl

/-- Adding a batch inserts all its entries, or changes nothing when one document has no id. -/
theorem apply_addAll (index : Index) (documents : List Document) :
    index.apply (.addAll documents) =
      if documents.all Document.isAddressable then
        index.insertAll (documents.map Document.analyze)
      else index := by
  rw [apply, addAll]
  split <;> rfl

section

variable {motive : Index → Prop}
  (insert : ∀ (index : Index) (document : Document), document.isAddressable = true →
    motive index → motive (index.insert document.analyze))
  (remove : ∀ (index : Index) (id : String), motive index → motive (index.remove id).1)
  (clear : ∀ index : Index, motive index → motive index.clear)

include insert

/-- What putting one document in preserves is preserved by putting many in. -/
theorem insertAll_induction {index : Index} (h : motive index) {documents : List Document}
    (hall : ∀ document ∈ documents, document.isAddressable = true) :
    motive (index.insertAll (documents.map Document.analyze)) := by
  unfold insertAll
  induction documents generalizing index with
  | nil => exact h
  | cons document rest ih =>
    have hhead := insert index document (hall document List.mem_cons_self) h
    exact ih hhead fun d hd => hall d (List.mem_cons_of_mem _ hd)

include remove clear

/-- What the three steps preserve is preserved by every change. -/
theorem apply_induction {index : Index} (h : motive index) (change : Change) :
    motive (index.apply change) := by
  have hadd : ∀ document, motive (index.apply (.add document)) := by
    intro document
    rw [apply_add]
    split
    · rename_i haddressable
      exact insert index document haddressable h
    · exact h
  cases change with
  | add document => exact hadd document
  | update document => exact hadd document
  | addAll documents =>
    rw [apply_addAll]
    split
    · rename_i hall
      exact insertAll_induction insert h (List.all_eq_true.mp hall)
    · exact h
  | remove id => exact remove index id h
  | clear => exact clear index h

/-- What holds of the empty index and is preserved by the three steps holds after every history. -/
theorem after_induction (start : motive empty) (changes : List Change) :
    motive (after changes) := by
  rw [after]
  exact List.foldlRecOn changes apply start fun index h change _ =>
    apply_induction insert remove clear h change

end

/-! ## What the steps do to the tables -/

/-- Removing an id takes the slot from that id alone. -/
theorem slotOf?_remove (index : Index) (id id' : String) :
    (index.remove id).1.slotOf? id' = if id' = id then none else index.slotOf? id' := by
  unfold remove
  split
  · rename_i hnone
    split
    · rename_i heq
      rw [heq, hnone]
    · rfl
  · split <;> exact Table.find?_erase index.slots id id'

/-- Only the slot of the removed identifier is emptied. -/
theorem entryAt?_remove (index : Index) (id : String) (slot : Slot) :
    (index.remove id).1.entryAt? slot =
      if index.slotOf? id = some slot then none else index.entryAt? slot := by
  unfold remove
  split
  · rename_i hnone
    rw [hnone, if_neg (by simp)]
  · rename_i found hfound
    rw [hfound]
    split
    · rename_i hnone
      split
      · rename_i heq
        rw [← Option.some.inj heq]
        exact hnone
      · rfl
    · simp only [entryAt?, Table.find?_erase, Option.some.injEq, eq_comm]

/-- Only the postings of the document with the removed identifier are taken away. -/
theorem mem_slots_remove {index : Index} {id term : String} {slot : Slot} :
    slot ∈ (index.remove id).1.postings.slots term ↔
      slot ∈ index.postings.slots term ∧
        ¬ (index.slotOf? id = some slot ∧
          ∃ entry, index.entryAt? slot = some entry ∧ term ∈ entry.terms) := by
  unfold remove
  split
  · rename_i hnone
    simp [hnone]
  · rename_i found hfound
    split
    · rename_i hnone
      refine (and_iff_left ?_).symm
      rintro ⟨hslot, entry, hentry, _⟩
      rw [hfound] at hslot
      rw [← Option.some.inj hslot, hnone] at hentry
      contradiction
    · rename_i entry hentry
      rw [Postings.mem_slots_retractAll, hfound]
      refine and_congr_right fun _ => not_congr ⟨?_, ?_⟩
      · rintro ⟨hterm, rfl⟩
        exact ⟨rfl, entry, hentry, hterm⟩
      · rintro ⟨hslot, entry', hentry', hterm⟩
        rw [← Option.some.inj hslot, hentry] at hentry'
        rw [← Option.some.inj hentry'] at hterm
        exact ⟨hterm, (Option.some.inj hslot).symm⟩

/-- Removing leaves no empty posting list behind. -/
theorem allNonempty_remove {index : Index} (h : index.postings.AllNonempty) (id : String) :
    (index.remove id).1.postings.AllNonempty := by
  unfold remove
  split
  · exact h
  · split
    · exact h
    · exact Postings.allNonempty_retractAll h _ _

/-- Inserting gives the next slot to the id of the entry and leaves the other ids where they are. -/
theorem slotOf?_insert (index : Index) (entry : Entry) (id : String) :
    (index.insert entry).slotOf? id =
      if id = entry.document.id then some index.nextSlot else index.slotOf? id := by
  simp only [insert, slotOf?, Table.find?_insert, nextSlot_remove]
  split
  · rfl
  · rename_i hne
    have hother := slotOf?_remove index entry.document.id id
    rw [if_neg hne] at hother
    exact hother

/-- The document goes into the next slot, after the old one is removed. -/
theorem entryAt?_insert (index : Index) (entry : Entry) (slot : Slot) :
    (index.insert entry).entryAt? slot =
      if slot = index.nextSlot then some entry
      else (index.remove entry.document.id).1.entryAt? slot := by
  simp only [insert, entryAt?, Table.find?_insert, nextSlot_remove]

/-- Behind an insertion, a term lists the new slot if the entry has the term, and what was left once
the earlier document of that id was removed. -/
theorem mem_slots_insert {index : Index} {entry : Entry} {term : String} {slot : Slot} :
    slot ∈ (index.insert entry).postings.slots term ↔
      (term ∈ entry.terms ∧ slot = index.nextSlot) ∨
        slot ∈ (index.remove entry.document.id).1.postings.slots term := by
  simp only [insert, Postings.mem_slots_insertAll, nextSlot_remove]

/-- Inserting leaves no empty posting list behind. -/
theorem allNonempty_insert {index : Index} (h : index.postings.AllNonempty) (entry : Entry) :
    (index.insert entry).postings.AllNonempty :=
  Postings.allNonempty_insertAll (allNonempty_remove h _) _ _

end Index
end TextSearch
