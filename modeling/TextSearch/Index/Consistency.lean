import TextSearch.Index.Basic

/-!
# Consistency of an index

The three tables of an index have to tell the same story: the identifiers lead to the slots of
documents with these identifiers, and under each term are the slots of exactly those documents that
have the term.  `Index.violation?` looks for the first place where they do not.
-/

namespace TextSearch

/-- A place where the tables of an index disagree. -/
inductive Violation where
  | emptyPostings (term : String)
  /-- There is no document in the slot. -/
  | stalePosting (term : String) (slot : Slot)
  /-- The document in the slot does not have the term. -/
  | unexpectedPosting (term : String) (slot : Slot)
  | missingPosting (id : String) (term : String)
  /-- The identifier does not lead to the document. -/
  | registryMismatch (id : String)
  deriving DecidableEq, Repr

namespace Violation

/-- A slot as messages show it. -/
def slotText (slot : Slot) : String :=
  "DocId(" ++ slot.repr ++ ")"

/-- The message that explains a violation. -/
def message : Violation → String
  | emptyPostings term => "posting list for '" ++ term ++ "' is empty"
  | stalePosting term slot =>
    "posting list for '" ++ term ++ "' lists slot " ++ slotText slot ++ " with no live document"
  | unexpectedPosting term slot =>
    "slot " ++ slotText slot ++ " is posted under '" ++ term
      ++ "' but its document doesn't produce it"
  | missingPosting id term =>
    "document '" ++ id ++ "' produces '" ++ term ++ "' but isn't in its posting list"
  | registryMismatch id => "id map and document table disagree about '" ++ id ++ "'"

end Violation

namespace Index

/-- A document whose identifier leads elsewhere, where there are more documents than identifiers or
fewer. -/
def sizeViolation? (index : Index) : Option Violation :=
  if index.slots.size = index.size then none
  else
    let orphan := index.entries.entries.find? fun (slot, entry) =>
      index.slotOf? entry.document.id != some slot
    some (.registryMismatch ((orphan.map fun (_, entry) => entry.document.id).getD ""))

/-- An identifier that does not lead to a document with it. -/
def registryViolation? (index : Index) : Option Violation :=
  index.slots.entries.findSome? fun (id, slot) =>
    if (index.entryAt? slot).any (·.document.id == id) then none else some (.registryMismatch id)

/-- A slot that is listed under a term without reason. -/
def slotViolation? (index : Index) (term : String) (slot : Slot) : Option Violation :=
  match index.entryAt? slot with
  | none => some (.stalePosting term slot)
  | some entry => if term ∈ entry.terms then none else some (.unexpectedPosting term slot)

/-- A term with no slots, or with one that is listed without reason. -/
def postingsViolation? (index : Index) : Option Violation :=
  index.postings.lists.entries.findSome? fun (term, slots) =>
    if slots.isEmpty then some (.emptyPostings term)
    else slots.slots.findSome? (index.slotViolation? term)

/-- A document that is not listed under one of its terms. -/
def missingViolation? (index : Index) : Option Violation :=
  index.entries.entries.findSome? fun (slot, entry) =>
    entry.terms.findSome? fun term =>
      if slot ∈ index.postings.slots term then none
      else some (.missingPosting entry.document.id term)

/-- The first violation, if there is one. -/
def violation? (index : Index) : Option Violation :=
  index.sizeViolation? <|> index.registryViolation? <|> index.postingsViolation?
    <|> index.missingViolation?

/-- Check an index. -/
def verify (index : Index) : Except Violation Unit :=
  match index.violation? with
  | some violation => .error violation
  | none => .ok ()

end Index
end TextSearch
