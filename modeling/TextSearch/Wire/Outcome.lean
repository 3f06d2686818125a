import TextSearch.Search.Outcome
import TextSearch.Wire.Document

/-!
# Answers as data values

The data values of results, syntax errors and statistics.
-/

namespace TextSearch

/-- The data value of a syntax error: its kind and what it is about. -/
def SyntaxError.toJson : SyntaxError → Json
  | emptyQuery => .object [("kind", .string "emptyQuery")]
  | unexpectedToken found position =>
    .object [
      ("found", .string found), ("kind", .string "unexpectedToken"),
      ("position", .ofNat position)]
  | unexpectedEnd => .object [("kind", .string "unexpectedEnd")]
  | missingFieldValue field position =>
    .object [
      ("field", .string field), ("kind", .string "missingFieldValue"),
      ("position", .ofNat position)]
  | unclosedGroup position =>
    .object [("kind", .string "unclosedGroup"), ("position", .ofNat position)]
  | unmatchedClosing position =>
    .object [("kind", .string "unmatchedCloseParen"), ("position", .ofNat position)]
  | nestingTooDeep position =>
    .object [("kind", .string "nestingTooDeep"), ("position", .ofNat position)]

/-- The data value of the excerpts of a field. -/
def Highlight.toJson (highlight : Highlight) : Json :=
  .object [
    ("field", .string highlight.field.name),
    ("fragments", Json.strings highlight.fragments),
    ("original", .string highlight.original)]

/-- The data value of a result. -/
def Hit.toJson (hit : Hit) : Json :=
  .object [
    ("document", hit.document.toJson),
    ("highlights", .array (hit.highlights.map Highlight.toJson)),
    ("matchedFields", Json.strings (hit.matchedFields.map MatchField.name)),
    ("score", .ofFloat hit.score)]

/-- The data value of an outcome. -/
def Outcome.toJson (outcome : Outcome) : Json :=
  .object [
    ("errors", .array (outcome.errors.map SyntaxError.toJson)),
    ("hasError", .bool outcome.hasError),
    ("results", .array (outcome.results.map Hit.toJson)),
    ("totalMatches", .ofNat outcome.total)]

/-- The data value of statistics. -/
def Statistics.toJson (statistics : Statistics) : Json :=
  .object [
    ("averageDocumentSize", .ofFloat statistics.meanBodyChars),
    ("indexSize", .ofNat statistics.postings),
    ("totalDocuments", .ofNat statistics.documents),
    ("totalTerms", .ofNat statistics.terms)]

end TextSearch
