import TextSearch.Document
import TextSearch.Wire.Decoder

/-!
# Documents as data values

A document is written with ten keys; the further fields are left out when there are none.  Only the
identifier is needed to read one.  A moment that is not given is the present moment, which the
caller knows.
-/

namespace TextSearch
namespace Document

open Wire (Decoder RecordField)

/-- The data value of a document. -/
def toJson (document : Document) : Json :=
  .object <|
    [("author", Json.optionalString document.author),
      ("body", .string document.body),
      ("createdAt", .string document.createdAt.text)] ++
    (if document.fields.isEmpty then [] else [("fields", .object document.fields.entries)]) ++
    [("id", .string document.id),
      ("path", Json.optionalString document.path),
      ("tags", Json.strings document.tags),
      ("title", .string document.title),
      ("type", .string document.kind.name),
      ("updatedAt", .string document.updatedAt.text)]

/-- The fields of a document. -/
def wireFields : List (RecordField Document) := [
  .of "id" true Wire.string fun id document => { document with id },
  .of "title" false Wire.string fun title document => { document with title },
  .of "body" false Wire.string fun body document => { document with body },
  .of "type" false (Wire.enumeration Kind.name Kind.all)
    fun kind document => { document with kind },
  .of "path" false (Wire.optional Wire.string) fun path document => { document with path },
  .of "createdAt" false Wire.timestamp fun createdAt document => { document with createdAt },
  .of "updatedAt" false Wire.timestamp fun updatedAt document => { document with updatedAt },
  .of "tags" false (Wire.list Wire.string) fun tags document => { document with tags },
  .of "author" false (Wire.optional Wire.string) fun author document => { document with author },
  .of "fields" false Wire.table fun fields document => { document with fields }]

/-- A document; `now` stands for the moments that are not given. -/
def decoder (now : Timestamp) : Decoder Document :=
  Wire.record "struct Document" wireFields (.page "" "" "" now)

/-- The document that a data value describes. -/
def ofJson (now : Timestamp) (value : Json) : Except Wire.DecodeError Document :=
  decoder now .value (.ofJson value)

end Document
end TextSearch
