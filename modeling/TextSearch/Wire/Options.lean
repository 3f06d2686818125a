import TextSearch.Options
import TextSearch.Wire.Decoder

/-!
# Search options as data values

Every key may be left out at every level, except for the two ends of a span of time; what is left
out has its standard value.
-/

namespace TextSearch

open Wire (Decoder RecordField)

namespace DateRange

/-- The data value of a span of time. -/
def toJson (range : DateRange) : Json :=
  .object [("end", .string range.last.text), ("start", .string range.first.text)]

/-- The fields of a span of time. -/
def wireFields : List (RecordField DateRange) := [
  .of "start" true Wire.timestamp fun first range => { range with first },
  .of "end" true Wire.timestamp fun last range => { range with last }]

/-- A span of time. -/
def decoder : Decoder DateRange :=
  Wire.record "struct DateRange" wireFields ⟨.epoch, .epoch⟩

end DateRange

namespace KindSet

/-- The data value of a set of kinds. -/
def toJson (kinds : KindSet) : Json :=
  Json.strings (kinds.toList.map Kind.name)

/-- A set of kinds. -/
def decoder : Decoder KindSet := fun origin source =>
  (Wire.list (Wire.enumeration Kind.name Kind.all) origin source).map ofList

end KindSet

namespace Filters

/-- The data value of constraints. -/
def toJson (filters : Filters) : Json :=
  .object [
    ("authors", Json.strings filters.authors),
    ("dateRange", (filters.created.map DateRange.toJson).getD .null),
    ("fileTypes", filters.kinds.toJson),
    ("paths", Json.strings filters.paths),
    ("tags", Json.strings filters.tags)]

/-- The fields of constraints. -/
def wireFields : List (RecordField Filters) := [
  .of "fileTypes" false KindSet.decoder fun kinds filters => { filters with kinds },
  .of "dateRange" false (Wire.optional DateRange.decoder)
    fun created filters => { filters with created },
  .of "tags" false (Wire.list Wire.string) fun tags filters => { filters with tags },
  .of "authors" false (Wire.list Wire.string) fun authors filters => { filters with authors },
  .of "paths" false (Wire.list Wire.string) fun paths filters => { filters with paths }]

/-- Constraints. -/
def decoder : Decoder Filters :=
  Wire.record "struct SearchFilters" wireFields .unrestricted

/-- The constraints that a data value describes. -/
def ofJson (value : Json) : Except Wire.DecodeError Filters :=
  decoder .value (.ofJson value)

end Filters

namespace Marks

/-- The data value of marks. -/
def toJson (marks : Marks) : Json :=
  .object [("post", .string marks.after), ("pre", .string marks.before)]

/-- The fields of marks. -/
def wireFields : List (RecordField Marks) := [
  .of "pre" false Wire.string fun before marks => { marks with before },
  .of "post" false Wire.string fun after marks => { marks with after }]

/-- Marks. -/
def decoder : Decoder Marks :=
  Wire.record "struct HighlightTags" wireFields .standard

end Marks

namespace Options

/-- The data value of options. -/
def toJson (options : Options) : Json :=
  .object [
    ("filters", options.filters.toJson),
    ("fragmentSize", .ofNat options.fragmentSize),
    ("highlight", .bool options.highlight),
    ("highlightTags", options.marks.toJson),
    ("limit", .ofNat options.limit),
    ("maxFragments", .ofNat options.maxFragments),
    ("offset", .ofNat options.offset),
    ("sortBy", .string options.sortKey.name),
    ("sortOrder", .string options.direction.name)]

/-- A sort key. -/
def sortKeyDecoder : Decoder SortKey := fun origin source =>
  (Wire.string origin source).map SortKey.ofName

/-- The fields of options. -/
def wireFields : List (RecordField Options) := [
  .of "limit" false Wire.count fun limit options => { options with limit },
  .of "offset" false Wire.count fun offset options => { options with offset },
  .of "sortBy" false sortKeyDecoder fun sortKey options => { options with sortKey },
  .of "sortOrder" false (Wire.enumeration Direction.name Direction.all)
    fun direction options => { options with direction },
  .of "highlight" false Wire.bool fun highlight options => { options with highlight },
  .of "highlightTags" false Marks.decoder fun marks options => { options with marks },
  .of "fragmentSize" false Wire.count fun fragmentSize options => { options with fragmentSize },
  .of "maxFragments" false Wire.count fun maxFragments options => { options with maxFragments },
  .of "filters" false Filters.decoder fun filters options => { options with filters }]

/-- Options. -/
def decoder : Decoder Options :=
  Wire.record "struct SearchOptions" wireFields .standard

/-- The options that a data value describes. -/
def ofJson (value : Json) : Except Wire.DecodeError Options :=
  decoder .value (.ofJson value)

end Options
end TextSearch
