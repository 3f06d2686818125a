import TextSearch.Document
import TextSearch.Index.Tally
import TextSearch.Text.Terms

/-!
# What a document contributes to the index

A document is found under the words of its title and body, under one facet for each of its tags and
under one facet for its kind.  The facets are words with a colon, which no word of a text has, so
the two sorts never meet.
-/

namespace TextSearch

/-- The term under which documents with a tag are found. -/
def tagFacet (tag : String) : String :=
  "tag:" ++ Text.lowercase tag

/-- The term under which documents of a kind are found. -/
def kindFacet (kind : String) : String :=
  "type:" ++ Text.lowercase kind

/-- A document with all that is derived from it. -/
structure Entry where
  document : Document
  /-- How often each word occurs in the title and the body. -/
  counts : Table String Nat
  /-- The number of words, repetitions included. -/
  wordCount : Nat
  /-- All terms under which the document is found, by ascending order, each once. -/
  terms : List String
  deriving Inhabited

namespace Document

/-- The words of the title and the body, in order. -/
def words (document : Document) : List String :=
  Text.terms (document.title ++ " " ++ document.body)

/-- The facets of the tags, in order; an empty tag has none. -/
def tagFacets (document : Document) : List String :=
  (document.tags.filter (· ≠ "")).map tagFacet

/-- All facets. -/
def facets (document : Document) : List String :=
  document.tagFacets ++ [kindFacet document.kind.name]

/-- What the index holds of a document. -/
def analyze (document : Document) : Entry :=
  let words := document.words
  let counts := Table.tally words
  { document := document
    counts := counts
    wordCount := words.length
    terms := (Table.tally (counts.keys ++ document.facets)).keys }

@[simp]
theorem document_analyze (document : Document) : document.analyze.document = document :=
  rfl

end Document

namespace Entry

/-- How often a word occurs in the title and the body. -/
def count (entry : Entry) (word : String) : Nat :=
  (entry.counts.find? word).getD 0

end Entry
end TextSearch
