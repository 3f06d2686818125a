import TextSearch.Document

/-!
# Search options

What a search may be told apart from its query: which documents may be found at all, in which order
results are listed, which of them are shown, and how their texts are marked.
-/

namespace TextSearch

/-- A set of kinds. -/
structure KindSet where
  page : Bool
  block : Bool
  tag : Bool
  deriving DecidableEq, Repr

namespace KindSet

/-- The set without kinds. -/
def empty : KindSet :=
  ⟨false, false, false⟩

/-- The kind is in the set. -/
def contains (kinds : KindSet) : Kind → Bool
  | .page => kinds.page
  | .block => kinds.block
  | .tag => kinds.tag

/-- Put a kind into the set. -/
def insert (kinds : KindSet) : Kind → KindSet
  | .page => { kinds with page := true }
  | .block => { kinds with block := true }
  | .tag => { kinds with tag := true }

/-- The set of the kinds of a list. -/
def ofList (kinds : List Kind) : KindSet :=
  kinds.foldl insert empty

/-- The kinds of the set, in their order. -/
def toList (kinds : KindSet) : List Kind :=
  Kind.all.filter kinds.contains

/-- There are no kinds in the set. -/
def isEmpty (kinds : KindSet) : Bool :=
  !kinds.page && !kinds.block && !kinds.tag

/-- A set of kinds is read back from the list of its members. -/
@[simp]
theorem ofList_toList (kinds : KindSet) : ofList kinds.toList = kinds := by
  obtain ⟨page, block, tag⟩ := kinds
  cases page <;> cases block <;> cases tag <;> decide

/-- Inserting a kind adds that kind. -/
theorem contains_insert (kinds : KindSet) (kind other : Kind) :
    (kinds.insert kind).contains other = (other == kind || kinds.contains other) := by
  cases kind <;> cases other <;> simp [insert, contains]

end KindSet

/-- A span of time, with its two ends. -/
structure DateRange where
  first : Timestamp
  last : Timestamp
  deriving DecidableEq

/-- The moment lies in the span. -/
def DateRange.contains (range : DateRange) (moment : Timestamp) : Bool :=
  range.first.notAfter moment && moment.notAfter range.last

/-- Constraints on documents.  An empty constraint admits every document. -/
structure Filters where
  kinds : KindSet
  created : Option DateRange
  tags : List String
  authors : List String
  paths : List String
  deriving DecidableEq

namespace Filters

/-- No constraints. -/
def unrestricted : Filters :=
  ⟨.empty, none, [], [], []⟩

/-- There are no constraints. -/
def isEmpty (filters : Filters) : Bool :=
  filters.kinds.isEmpty && filters.created.isNone && filters.tags.isEmpty
    && filters.authors.isEmpty && filters.paths.isEmpty

end Filters

/-- What results are sorted by. -/
inductive SortKey where
  | score
  | title
  | created
  | updated
  deriving DecidableEq, Repr

namespace SortKey

/-- The name of a sort key. -/
def name : SortKey → String
  | score => "score"
  | title => "title"
  | created => "createdAt"
  | updated => "updatedAt"

/-- The sort key with the given name; every name that is not known stands for the score. -/
def ofName (text : String) : SortKey :=
  if text = "title" then title
  else if text = "createdAt" ∨ text = "created_at" then created
  else if text = "updatedAt" ∨ text = "updated_at" then updated
  else score

/-- A sort key is read back from its name. -/
@[simp]
theorem ofName_name (key : SortKey) : ofName key.name = key := by
  cases key <;> decide

end SortKey

/-- The direction in which results are sorted. -/
inductive Direction where
  | ascending
  | descending
  deriving DecidableEq, Repr

namespace Direction

/-- The name of a direction. -/
def name : Direction → String
  | ascending => "asc"
  | descending => "desc"

/-- All directions. -/
def all : List Direction :=
  [ascending, descending]

end Direction

/-- What is put before and behind every marked occurrence. -/
structure Marks where
  before : String
  after : String
  deriving DecidableEq, Repr

/-- The marks of a hypertext. -/
def Marks.standard : Marks :=
  ⟨"<mark>", "</mark>"⟩

/-- The options of a search. -/
structure Options where
  /-- The greatest number of results that are shown. -/
  limit : Nat
  /-- The number of results that are left out before the first one shown. -/
  offset : Nat
  sortKey : SortKey
  direction : Direction
  /-- Whether excerpts with marked terms are made. -/
  highlight : Bool
  marks : Marks
  /-- The number of characters of an excerpt. -/
  fragmentSize : Nat
  /-- The greatest number of excerpts from one field. -/
  maxFragments : Nat
  filters : Filters
  deriving DecidableEq

namespace Options

/-- The options of a search that is told nothing. -/
def standard : Options where
  limit := 50
  offset := 0
  sortKey := .score
  direction := .descending
  highlight := true
  marks := .standard
  fragmentSize := 150
  maxFragments := 3
  filters := .unrestricted

instance : Inhabited Options :=
  ⟨standard⟩

end Options
end TextSearch
