import TextSearch.Index.Entry
import TextSearch.Index.Postings

/-!
# The index

The index holds the live documents, each in a slot of its own, and the postings that lead from terms
to slots.  Slots are handed out in ascending order and never again: a document that is added once
more gets a new slot, also after all documents have been removed.

A document that takes the place of another one with the same identifier is added after the other one
has been removed with all its postings.  A batch is checked as a whole before any of it is added.

What is known of an index as a whole are counts of documents, terms and postings, and the terms that
continue a given beginning.
-/

namespace TextSearch

/-- Why documents are refused. -/
inductive IndexError where
  | missingDocumentId
  deriving DecidableEq, Repr

namespace IndexError

/-- The message that explains a refusal. -/
def message : IndexError → String
  | missingDocumentId => "document id must not be empty"

end IndexError

/-- Documents with what leads to them. -/
structure Index where
  /-- The slot of each live document, by its identifier. -/
  slots : Table String Slot
  entries : Table Slot Entry
  postings : Postings
  /-- The slot that the next document will get. -/
  nextSlot : Slot
  deriving Inhabited

namespace Index

/-- The index to which nothing has been added yet. -/
def empty : Index :=
  ⟨.empty, .empty, .empty, 0⟩

/-! ## Looking up -/

/-- The number of live documents. -/
def size (index : Index) : Nat :=
  index.entries.size

/-- The slot of a live document. -/
def slotOf? (index : Index) (id : String) : Option Slot :=
  index.slots.find? id

/-- There is a live document with the identifier. -/
def contains (index : Index) (id : String) : Bool :=
  index.slots.contains id

/-- What is held in a slot. -/
def entryAt? (index : Index) (slot : Slot) : Option Entry :=
  index.entries.find? slot

/-- The live document with the identifier. -/
def document? (index : Index) (id : String) : Option Document :=
  (index.slotOf? id).bind fun slot => (index.entryAt? slot).map Entry.document

/-- All slots with a live document. -/
def allSlots (index : Index) : SlotSet :=
  ⟨index.entries.keys, by
    have h := index.entries.ascending
    simp only [Nat.compare_eq_lt] at h
    exact List.pairwise_map.mpr h⟩

/-- The slots of an index are those with an entry. -/
theorem mem_allSlots {index : Index} {slot : Slot} :
    slot ∈ index.allSlots ↔ (index.entryAt? slot).isSome = true := by
  simp only [allSlots, SlotSet.mem_def, Table.keys, List.mem_map, Option.isSome_iff_exists,
    entryAt?, Table.find?_eq_some_iff]
  constructor
  · rintro ⟨⟨key, entry⟩, hmem, rfl⟩
    exact ⟨entry, hmem⟩
  · rintro ⟨entry, hmem⟩
    exact ⟨_, hmem, rfl⟩

/-! ## Changes -/

/-- Remove a document, and say whether there was one. -/
def remove (index : Index) (id : String) : Index × Bool :=
  match index.slotOf? id with
  | none => (index, false)
  | some slot =>
    let slots := index.slots.erase id
    match index.entryAt? slot with
    | none => ({ index with slots }, true)
    | some entry =>
      ({ index with
          slots
          entries := index.entries.erase slot
          postings := index.postings.retractAll entry.terms slot }, true)

/-- Put an analysed document into the next slot, after removing the one with its identifier. -/
def insert (index : Index) (entry : Entry) : Index :=
  let index := (index.remove entry.document.id).1
  let slot := index.nextSlot
  { slots := index.slots.insert entry.document.id slot
    entries := index.entries.insert slot entry
    postings := index.postings.insertAll entry.terms slot
    nextSlot := slot + 1 }

/-- Put analysed documents in, one after the other. -/
def insertAll (index : Index) (entries : List Entry) : Index :=
  entries.foldl insert index

/-- Add a document, and tell its slot. -/
def add (index : Index) (document : Document) : Except IndexError (Index × Slot) :=
  if document.isAddressable then .ok (index.insert document.analyze, index.nextSlot)
  else .error .missingDocumentId

/-- Put a new version of a document in place of the old one. -/
def update (index : Index) (document : Document) : Except IndexError (Index × Slot) :=
  index.add document

/-- Add all documents of a batch, or none of them, and tell how many there were. -/
def addAll (index : Index) (documents : List Document) : Except IndexError (Index × Nat) :=
  if documents.all Document.isAddressable then
    .ok (index.insertAll (documents.map Document.analyze), documents.length)
  else .error .missingDocumentId

/-- Remove all documents.  The slots that were handed out stay used. -/
def clear (index : Index) : Index :=
  { empty with nextSlot := index.nextSlot }

/-- Removing hands out no slot. -/
@[simp]
theorem nextSlot_remove (index : Index) (id : String) :
    (index.remove id).1.nextSlot = index.nextSlot := by
  unfold remove
  split
  · rfl
  · split <;> rfl

@[simp]
theorem nextSlot_insert (index : Index) (entry : Entry) :
    (index.insert entry).nextSlot = index.nextSlot + 1 := by
  simp [insert]

end Index

/-! ## The index as a whole -/

/-- Counts of an index. -/
structure Statistics where
  documents : Nat
  /-- Terms with postings, facets included. -/
  terms : Nat
  /-- The number of characters of all bodies together. -/
  bodyChars : Nat
  postings : Nat
  deriving DecidableEq, Repr

namespace Statistics

/-- The mean number of characters of a body; zero if there are no documents. -/
def meanBodyChars (statistics : Statistics) : Float :=
  if statistics.documents = 0 then 0
  else Float.ofNat statistics.bodyChars / Float.ofNat statistics.documents

end Statistics

namespace Index

/-- The counts of the index. -/
def statistics (index : Index) : Statistics where
  documents := index.size
  terms := index.postings.termCount
  bodyChars := (index.entries.values.map fun entry => entry.document.body.length).foldr (· + ·) 0
  postings := index.postings.total

/-- The number of suggestions when none is given. -/
def standardSuggestionLimit : Nat := 10

/-- The first terms, up to a limit, that go on behind the given beginning, which is compared in
lower case.  Nothing goes on behind nothing. -/
def suggestions (index : Index) (beginning : String) (limit : Nat) : List String :=
  if beginning = "" then [] else index.postings.completions (Text.lowercase beginning) limit

end Index

end TextSearch
