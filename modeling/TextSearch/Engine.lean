import TextSearch.Index.Consistency
import TextSearch.Search.Outcome

/-!
# The search engine

An index, and the options of searches that bring none of their own.
-/

namespace TextSearch

/-- An index with standard options. -/
structure Engine where
  index : Index
  defaults : Options
  deriving Inhabited

namespace Engine

/-- The engine without documents, with the given standard options. -/
def new (defaults : Options) : Engine :=
  ⟨.empty, defaults⟩

/-! ## Changes -/

/-- Add a document, in place of the one with its identifier. -/
def add (engine : Engine) (document : Document) : Except IndexError Engine :=
  (engine.index.add document).map fun (index, _) => { engine with index }

/-- Put a new version of a document in place of the old one. -/
def update (engine : Engine) (document : Document) : Except IndexError Engine :=
  (engine.index.update document).map fun (index, _) => { engine with index }

/-- Add a batch of documents, or none of them, and tell how many there were. -/
def addAll (engine : Engine) (documents : List Document) : Except IndexError (Engine × Nat) :=
  (engine.index.addAll documents).map fun (index, count) => ({ engine with index }, count)

/-- Remove a document, and say whether there was one. -/
def remove (engine : Engine) (id : String) : Engine × Bool :=
  let (index, removed) := engine.index.remove id
  ({ engine with index }, removed)

/-- Remove all documents. -/
def clear (engine : Engine) : Engine :=
  { engine with index := engine.index.clear }

/-! ## Questions -/

/-- Search with the given options. -/
def searchWith (engine : Engine) (query : String) (options : Options) : Outcome :=
  engine.index.search query options

/-- Search with the standard options. -/
def search (engine : Engine) (query : String) : Outcome :=
  engine.searchWith query engine.defaults

/-- The identifiers of the documents that a search shows. -/
def searchIds (engine : Engine) (query : String) : List String :=
  (engine.search query).results.map fun hit => hit.document.id

/-- The terms that go on behind a beginning. -/
def suggestions (engine : Engine) (beginning : String) (limit : Option Nat) : List String :=
  engine.index.suggestions beginning (limit.getD Index.standardSuggestionLimit)

/-- The counts of the index. -/
def statistics (engine : Engine) : Statistics :=
  engine.index.statistics

/-- There is a document with the identifier. -/
def contains (engine : Engine) (id : String) : Bool :=
  engine.index.contains id

/-- The document with the identifier. -/
def document? (engine : Engine) (id : String) : Option Document :=
  engine.index.document? id

/-- The number of documents. -/
def size (engine : Engine) : Nat :=
  engine.index.size

end Engine
end TextSearch
