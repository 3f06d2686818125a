import TextSearch.CommandLine.Terminal
import TextSearch.Decimal
import TextSearch.Json.Printing
import TextSearch.Wire.Outcome

/-!
# Reports

Answers for people: a box with a headline, and one row for each thing to tell.  Rows that are too
long stick out of the box.

Answers can also be given as data, with the members in the order in which they are explained.
-/

namespace TextSearch
namespace CommandLine

/-- The room between the sides of a box. -/
def boxWidth : Nat := 80

/-- The text so many times. -/
def repeated (count : Nat) (c : Char) : String :=
  .ofList (List.replicate count c)

/-- A text of at most so many characters; where it is cut, its last character is an ellipsis. -/
def shortened (width : Nat) (text : String) : String :=
  if text.length ≤ width then text
  else .ofList (text.toList.take (width - 1) ++ ['…'])

/-! ## Boxes -/

/-- A part of the frame. -/
def border (terminal : Terminal) (text : String) : String :=
  terminal.themed .gray .plain text

/-- A row of a box. -/
def row (terminal : Terminal) (content : String) : String :=
  border terminal "│" ++ content ++ repeated (boxWidth - visibleWidth content) ' '
    ++ border terminal "│"

/-- The top of a box with a headline. -/
def top (terminal : Terminal) (headline : String) : String :=
  let label := "─ " ++ terminal.themed .cyan .bold headline ++ " "
  border terminal "┌" ++ border terminal label
    ++ border terminal (repeated (boxWidth - visibleWidth label) '─' ++ "┐")

/-- The bottom of a box. -/
def bottom (terminal : Terminal) : String :=
  border terminal ("└" ++ repeated boxWidth '─' ++ "┘")

/-- A box with rows. -/
def box (terminal : Terminal) (headline : String) (rows : List String) : List String :=
  top terminal headline :: rows.map (row terminal) ++ [bottom terminal]

/-- A headline that says what was asked for. -/
def headline (command subject : String) : String :=
  command ++ " \"" ++ shortened 40 subject ++ "\""

/-! ## Results -/

/-- The row for a syntax error. -/
def errorRow (terminal : Terminal) (error : SyntaxError) : String :=
  " " ++ terminal.themed .red .bold "!" ++ " " ++ error.message

/-- A number, with a blank in front if it has one digit. -/
def rankText (rank : Nat) : String :=
  let text := rank.repr
  repeated (2 - text.length) ' ' ++ text

/-- The row that a result begins with. -/
def hitRow (terminal : Terminal) (rank : Nat) (hit : Hit) : String :=
  let document := hit.document
  let place := "[" ++ document.kind.name ++ " " ++ shortened 16 document.id ++ "]"
  " " ++ rankText rank ++ ". " ++ terminal.themed .green .bold (shortened 44 document.title) ++ " "
    ++ terminal.themed .gray .plain place ++ " "
    ++ terminal.themed .cyan .plain (Decimal.fixed 4 hit.score)

/-- The row for an excerpt, on one line. -/
def fragmentRow (terminal : Terminal) (field : MatchField) (fragment : String) : String :=
  let line := String.ofList (fragment.toList.map fun c => if c = '\n' then ' ' else c)
  "     " ++ terminal.themed .gray .dim field.name ++ " " ++ line

/-- The rows for a result. -/
def hitRows (terminal : Terminal) (rank : Nat) (hit : Hit) : List String :=
  hitRow terminal rank hit ::
    hit.highlights.flatMap fun highlight =>
      highlight.fragments.map (fragmentRow terminal highlight.field)

/-- The rows for a list of results. -/
def resultRows (terminal : Terminal) (results : List Hit) : List String :=
  if results.isEmpty then [terminal.themed .gray .dim " no matches"]
  else (results.zipIdx 1).flatMap fun (hit, rank) => hitRows terminal rank hit

/-- The report on a search. -/
def resultsReport (terminal : Terminal) (query : String) (results : List Hit) (total : Nat)
    (errors : List SyntaxError) : List String :=
  let sum := " " ++ results.length.repr ++ " shown of " ++ total.repr ++ " matching"
  box terminal (headline "SEARCH" query) <|
    errors.map (errorRow terminal) ++ resultRows terminal results
      ++ [terminal.themed .gray .dim sum]

/-! ## Suggestions and statistics -/

/-- The report on suggestions. -/
def suggestionsReport (terminal : Terminal) (beginning : String) (suggestions : List String) :
    List String :=
  box terminal (headline "SUGGEST" beginning) <|
    if suggestions.isEmpty then [terminal.themed .gray .dim " no suggestions"]
    else suggestions.map fun term => " " ++ terminal.themed .green .plain term

/-- The report on an index. -/
def statisticsReport (terminal : Terminal) (statistics : Statistics) : List String :=
  box terminal "INDEX" [
    " documents      " ++ statistics.documents.repr,
    " terms          " ++ statistics.terms.repr,
    " postings       " ++ statistics.postings.repr,
    " avg body chars " ++ Decimal.fixed 1 statistics.meanBodyChars]

/-! ## Reports as data -/

/-- A syntax error, its kind first. -/
def errorData (error : SyntaxError) : Json :=
  error.toJson.arranged ["kind", "found", "field", "position"]

/-- A document, in the order of its fields. -/
def documentData (document : Document) : Json :=
  document.toJson.arranged ["id", "title", "body", "type", "path", "createdAt", "updatedAt",
    "tags", "author", "fields"]

/-- A result. -/
def hitData (hit : Hit) : Json :=
  .object [
    ("document", documentData hit.document),
    ("score", .ofFloat hit.score),
    ("highlights", .array (hit.highlights.map Highlight.toJson)),
    ("matchedFields", Json.strings (hit.matchedFields.map MatchField.name))]

/-- The outcome of a search as an indented text. -/
def outcomeData (outcome : Outcome) : String :=
  Json.text .indented <| .object [
    ("results", .array (outcome.results.map hitData)),
    ("totalMatches", .ofNat outcome.total),
    ("hasError", .bool outcome.hasError),
    ("errors", .array (outcome.errors.map errorData))]

/-- The statistics as an indented text. -/
def statisticsData (statistics : Statistics) : String :=
  Json.text .indented <| statistics.toJson.arranged ["totalDocuments", "totalTerms",
    "averageDocumentSize", "indexSize"]

end CommandLine
end TextSearch
