import TextSearch.Index.Table
import TextSearch.Json.Value
import TextSearch.Text.Characters
import TextSearch.Timestamp.Basic

/-!
# Documents

What is searched: pages, blocks of pages, and tags.  The title and the body are broken into terms;
the kind and the tags become facets; the rest is carried along for filters, for sorting and for
those who read the results.
-/

namespace TextSearch

/-- The kinds of documents. -/
inductive Kind where
  | page
  | block
  | tag
  deriving DecidableEq, Repr, Inhabited

namespace Kind

/-- The name of a kind. -/
def name : Kind → String
  | page => "page"
  | block => "block"
  | tag => "tag"

/-- All kinds, in their order. -/
def all : List Kind :=
  [page, block, tag]

/-- The kind with the given name. -/
def ofName? (text : String) : Option Kind :=
  all.find? fun kind => kind.name == text

@[simp]
theorem ofName?_name (kind : Kind) : ofName? kind.name = some kind := by
  cases kind <;> decide

end Kind

/-- A document. -/
structure Document where
  id : String
  title : String
  body : String
  kind : Kind
  path : Option String
  createdAt : Timestamp
  updatedAt : Timestamp
  tags : List String
  author : Option String
  /-- Further fields, which are kept as they are. -/
  fields : Table String Json
  deriving Inhabited

namespace Document

/-- A page without tags, author, path and further fields, created and updated at one moment. -/
def page (id title body : String) (moment : Timestamp) : Document where
  id := id
  title := title
  body := body
  kind := .page
  path := none
  createdAt := moment
  updatedAt := moment
  tags := []
  author := none
  fields := .empty

/-- The document can be addressed: there is more than blanks in its identifier. -/
def isAddressable (document : Document) : Bool :=
  !Text.isAllBlank document.id

end Document
end TextSearch
