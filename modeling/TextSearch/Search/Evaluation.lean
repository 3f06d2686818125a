import TextSearch.Index.Basic
import TextSearch.Query.Tree
import TextSearch.Search.Wildcard

/-!
# The documents that a query asks for

A query tree stands for a set of slots.  Terms are looked up in lower case; a phrase asks for all of
its words, at any places; a wildcard asks for any term that it matches; a field asks for a facet.
What is not in the index is in no document, and nothing is an error.
-/

namespace TextSearch
namespace Index

/-- Those of the documents found so far that have all words of a list.  The words are left alone as
soon as no document is left, and a word that no document has leaves none. -/
def narrow (index : Index) (found : SlotSet) : List String → SlotSet
  | [] => found
  | word :: rest =>
    if found.isEmpty then found
    else
      match index.postings.find? word with
      | none => .empty
      | some slots => index.narrow (found.inter slots) rest

/-- The documents with all words of a text; none, if it has no words. -/
def phraseSlots (index : Index) (value : String) : SlotSet :=
  match Text.terms value with
  | [] => .empty
  | first :: rest => index.narrow (index.postings.slots first) rest

/-- The documents with a term that begins with a text and goes on as the pattern says. -/
def wildcardSlots (index : Index) (literal pattern : String) : SlotSet :=
  match Wildcard.compile? literal pattern with
  | none => .empty
  | some wildcard => index.postings.unionMatching fun term => wildcard.accepts term.toList

/-- The beginning of the terms of a field. -/
def fieldStem (name : String) : String :=
  Text.lowercase name ++ ":"

/-- The documents with a field of the given value.  Only literals and wildcards can be values. -/
def fieldSlots (index : Index) (name : String) : Query → SlotSet
  | .term value => index.postings.slots (fieldStem name ++ Text.lowercase value)
  | .phrase value => index.postings.slots (fieldStem name ++ Text.lowercase value)
  | .wildcard pattern => index.wildcardSlots (fieldStem name) pattern
  | _ => .empty

/-- The documents that a query asks for. -/
def evaluate (index : Index) : Query → SlotSet
  | .term value => index.postings.slots (Text.lowercase value)
  | .phrase value => index.phraseSlots value
  | .wildcard pattern => index.wildcardSlots "" pattern
  | .field name value => index.fieldSlots name value
  | .range _ _ => .empty
  | .and left right =>
    let found := index.evaluate left
    if found.isEmpty then found else found.inter (index.evaluate right)
  | .or left right => (index.evaluate left).union (index.evaluate right)
  | .not operand => index.allSlots.diff (index.evaluate operand)

end Index
end TextSearch
