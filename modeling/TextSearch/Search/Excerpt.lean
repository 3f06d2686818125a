import TextSearch.Options
import TextSearch.Search.AutomatonSize
import TextSearch.Text.Terms

/-!
# Excerpts

For every occurrence of a term in the title or the body, an excerpt shows a window of the text
around it, with all occurrences of that term inside the window between marks.  Excerpts come term by
term, in the order of the terms, and for each term from left to right; only the first ones are kept.

Occurrences are looked for in the text folded character by character; inside a window, characters
are compared as letters, whatever their case.
-/

namespace TextSearch

/-- A field of a document in which terms are looked for. -/
inductive MatchField where
  | title
  | body
  | tags
  deriving DecidableEq, Repr

namespace MatchField

/-- The name of a field. -/
def name : MatchField → String
  | title => "title"
  | body => "body"
  | tags => "tags"

/-- All fields, in their order. -/
def all : List MatchField :=
  [title, body, tags]

/-- One of the terms occurs in the field: within the title or the body, or as a whole tag. -/
def hasTerm (document : Document) (terms : List String) : MatchField → Bool
  | title =>
    let text := (Text.lowercase document.title).toList
    terms.any fun term => Text.contains term.toList text
  | body =>
    let text := (Text.lowercase document.body).toList
    terms.any fun term => Text.contains term.toList text
  | tags =>
    let lowered := document.tags.map Text.lowercase
    terms.any lowered.contains

end MatchField

/-- The fields in which one of the terms occurs. -/
def Document.matchedFields (document : Document) (terms : List String) : List MatchField :=
  MatchField.all.filter (MatchField.hasTerm document terms)

/-- The excerpts of one field. -/
structure Highlight where
  field : MatchField
  fragments : List String
  /-- The whole text of the field. -/
  original : String
  deriving DecidableEq, Repr

namespace Excerpt

/-- The first and the last bound of the window around a match, in a text of `length` characters. -/
def window (size length start width : Nat) : Nat × Nat :=
  let first := start + width / 2 - size / 2
  let last := min (first + size) length
  (min first last, last)

/-- The parts of a text between and in the occurrences of a term, which start at the given offsets;
the occurrences are put between marks.  What has been put together is held in reverse order. -/
def markFrom (marks : Marks) (width : Nat) (done : List Char) (offset : Nat) :
    List Nat → List Char → List Char
  | [], text => done.reverse ++ text
  | start :: rest, text =>
    let gap := start - offset
    let found := (text.drop gap).take width
    let done := marks.after.toList.reverse ++ found.reverse ++ marks.before.toList.reverse
      ++ (text.take gap).reverse ++ done
    markFrom marks width done (start + width) rest (text.drop (gap + width))

/-- Put marks around the occurrences of a term in a text. -/
def mark (marks : Marks) (term text : List Char) : List Char :=
  markFrom marks term.length [] 0 (Text.starts Text.sameLetter term text) text

/-- What shows that a window leaves out a part of the text. -/
def ellipsis : String := "..."

/-- The excerpt for the occurrence of a term at the given offset. -/
def fragment (options : Options) (text : Array Char) (term : List Char) (start : Nat) : String :=
  let (first, last) := window options.fragmentSize text.size start term.length
  (if 0 < first then ellipsis else "")
    ++ .ofList (mark options.marks term (text.extract first last).toList)
    ++ (if last < text.size then ellipsis else "")

/-- The terms that can be looked for. -/
def searchable (terms : List String) : List (List Char) :=
  (terms.map String.toList).filter fun term => !term.isEmpty && AutomatonSize.canLookFor term

/-- All occurrences of terms in a folded text: the terms with their starts. -/
def occurrences (terms : List (List Char)) (folded : List Char) : List (List Char × Nat) :=
  terms.flatMap fun term =>
    (Text.starts (· == ·) (Text.foldChars term) folded).map fun start => (term, start)

/-- The excerpts of one field; none, if there is no occurrence. -/
def ofField (options : Options) (terms : List (List Char)) (field : MatchField) (text : String) :
    Option Highlight :=
  let chars := text.toList
  let shown := (occurrences terms (Text.foldChars chars)).take options.maxFragments
  if shown.isEmpty then none
  else
    let whole := chars.toArray
    some ⟨field, shown.map fun (term, start) => fragment options whole term start, text⟩

end Excerpt

/-- The excerpts of the title and of the body, in this order. -/
def Document.highlights (document : Document) (options : Options) (terms : List String) :
    List Highlight :=
  let terms := Excerpt.searchable terms
  [(MatchField.title, document.title), (MatchField.body, document.body)].filterMap
    fun (field, text) => Excerpt.ofField options terms field text

end TextSearch
