import TextSearch.Query.Parse
import TextSearch.Search.Evaluation
import TextSearch.Search.Excerpt
import TextSearch.Search.Relevance

/-!
# The outcome of a search

A query is read, the documents that it asks for are filtered, scored and sorted, and one page of
them is shown with excerpts.  What was wrong with the query is told beside the results.

Filters look at one document at a time.  Every constraint has to hold, and an empty constraint
holds.

Results are sorted by one key, in one direction.  Sorting is stable: results that the key does not
tell apart stay in the order in which their documents were added, in both directions.
-/

namespace TextSearch

/-! ## Filters -/

namespace Filters

/-- The kind of the document is among those wanted. -/
def admitsKind (filters : Filters) (document : Document) : Bool :=
  filters.kinds.isEmpty || filters.kinds.contains document.kind

/-- The document was created in the span of time. -/
def admitsCreation (filters : Filters) (document : Document) : Bool :=
  match filters.created with
  | none => true
  | some range => range.contains document.createdAt

/-- One of the document's tags is wanted, apart from case. -/
def admitsTags (filters : Filters) (document : Document) : Bool :=
  filters.tags.isEmpty ||
    let tags := document.tags.map Text.lowercase
    filters.tags.any fun wanted => tags.contains (Text.lowercase wanted)

/-- The document's author is one of those wanted. -/
def admitsAuthor (filters : Filters) (document : Document) : Bool :=
  filters.authors.isEmpty || document.author.any filters.authors.contains

/-- The document's path begins with one of those wanted. -/
def admitsPath (filters : Filters) (document : Document) : Bool :=
  filters.paths.isEmpty ||
    document.path.any fun path => filters.paths.any fun wanted =>
      wanted.toList.isPrefixOf path.toList

/-- All constraints hold of the document. -/
def admits (filters : Filters) (document : Document) : Bool :=
  filters.admitsKind document && filters.admitsCreation document && filters.admitsTags document
    && filters.admitsAuthor document && filters.admitsPath document

end Filters

/-! ## The order of results -/

/-- A document that was found. -/
structure Hit where
  document : Document
  score : Float
  highlights : List Highlight
  matchedFields : List MatchField

/-- The place of a score among all scores: an order on the bits that agrees with the order of
numbers and tells all scores apart. -/
def scoreRank (score : Float) : Int :=
  let bits := score.toBits.toNat
  if bits < Nat.pow 2 63 then bits else -((bits - Nat.pow 2 63 : Nat) : Int) - 1

/-- Titles are compared in lower case; equal ones as they are. -/
def compareTitles (a b : String) : Ordering :=
  (compare (Text.lowercase a) (Text.lowercase b)).then (compare a b)

/-- Compare two results by a key. -/
def Hit.compareBy (key : SortKey) (a b : Hit) : Ordering :=
  match key with
  | .score => compare (scoreRank a.score) (scoreRank b.score)
  | .title => compareTitles a.document.title b.document.title
  | .created => compare a.document.createdAt b.document.createdAt
  | .updated => compare a.document.updatedAt b.document.updatedAt

/-- The first result need not come behind the second. -/
def Hit.comesBefore (key : SortKey) (direction : Direction) (a b : Hit) : Bool :=
  match direction with
  | .ascending => (a.compareBy key b).isLE
  | .descending => (b.compareBy key a).isLE

/-- Sort results. -/
def sortHits (key : SortKey) (direction : Direction) (hits : List Hit) : List Hit :=
  hits.mergeSort (Hit.comesBefore key direction)

/-! ## Searching -/

/-- The results shown, and what there is to know about all. -/
structure Outcome where
  results : List Hit
  /-- The number of documents that were found, shown or not. -/
  total : Nat
  errors : List SyntaxError

namespace Outcome

/-- The outcome for a query that asks nothing. -/
def empty : Outcome :=
  ⟨[], 0, []⟩

/-- Something was wrong with the query. -/
def hasError (outcome : Outcome) : Bool :=
  !outcome.errors.isEmpty

end Outcome

/-- The page of a list that begins behind `offset` items and has at most `limit` items. -/
def page {α : Type} (offset limit : Nat) (items : List α) : List α :=
  (items.drop offset).take limit

namespace Index

/-- The documents that a query tree asks for and the filters admit, with their scores, in the order
in which they were added. -/
def hits (index : Index) (tree : Query) (words : List String) (filters : Filters) : List Hit :=
  let weighed := Weighing.float.weigh index words
  let terms := Text.distinct words
  let found := (index.evaluate tree).slots.filterMap index.entryAt?
  (found.filter fun entry => filters.admits entry.document).map fun entry =>
    { document := entry.document
      score := Weighing.float.score weighed entry
      highlights := []
      matchedFields := entry.document.matchedFields terms }

/-- Search for a query.  A query of blanks only finds nothing, and nothing is wrong with it. -/
def search (index : Index) (query : String) (options : Options) : Outcome :=
  if Text.isAllBlank query then .empty
  else
    let parsed := parse query
    let words := Text.terms query
    let hits := index.hits parsed.tree words options.filters
    let shown := page options.offset options.limit
      (sortHits options.sortKey options.direction hits)
    let terms := Text.distinct words
    { results :=
        if options.highlight then
          shown.map fun hit =>
            { hit with highlights := hit.document.highlights options terms }
        else shown
      total := hits.length
      errors := parsed.errors }

end Index

end TextSearch
