import TextSearch.Index.Basic
import TextSearch.Wire.Document

/-!
# Requests

A request names what is wanted and carries a payload, whose shape depends on what is wanted.  Its
identifier, any data value, comes back with every response.
-/

namespace TextSearch

open Wire (Decoder RecordField DecodeError)

/-- Why a request is not carried out. -/
inductive ServiceError where
  | refused (error : IndexError)
  | invalidPayload (request : String) (reason : String)
  | unknownRequestType (kind : String)
  | encoding (reason : String)
  deriving DecidableEq, Repr

namespace ServiceError

/-- The message that explains an error. -/
def message : ServiceError → String
  | refused error => error.message
  | invalidPayload request reason => "invalid " ++ request ++ " payload: " ++ reason
  | unknownRequestType kind => "unknown request type '" ++ kind ++ "'"
  | encoding reason => "failed to encode response: " ++ reason

end ServiceError

/-- A request. -/
structure Request where
  id : Json
  kind : String
  payload : Json

namespace Request

/-- The fields of a request. -/
def wireFields : List (RecordField Request) := [
  .of "id" false Wire.anything fun id request => { request with id },
  .of "type" true Wire.string fun kind request => { request with kind },
  .of "payload" false Wire.anything fun payload request => { request with payload }]

/-- A request. -/
def decoder : Decoder Request :=
  Wire.record "struct Request" wireFields ⟨.null, "", .null⟩

/-- The request that a line of text holds.  What is wrong with its shape is told only of a line that
is one data value throughout. -/
def ofText (line : String) : Except DecodeError Request :=
  let (source, ended) := Json.Source.ofText line
  match decoder .text source with
  | .ok request => if ended then .ok request else .error .malformed
  | .error error =>
    if ended && source.toJson?.isSome then .error error else .error .malformed

end Request

/-! ## Payloads -/

/-- What is to be searched for. -/
structure SearchPayload where
  query : String
  /-- Options that differ from the standard ones. -/
  options : Option Json

/-- A search payload. -/
def SearchPayload.decoder : Decoder SearchPayload :=
  Wire.record "struct SearchPayload"
    [.of "query" true Wire.string fun query payload => { payload with query },
      .of "options" false (Wire.optional Wire.anything)
        fun options payload => { payload with options }]
    ⟨"", none⟩

/-- What suggestions are wanted for. -/
structure SuggestPayload where
  beginning : String
  limit : Option Nat

/-- A suggest payload. -/
def SuggestPayload.decoder : Decoder SuggestPayload :=
  Wire.record "struct SuggestPayload"
    [.of "prefix" true Wire.string fun beginning payload => { payload with beginning },
      .of "limit" false (Wire.optional Wire.count) fun limit payload => { payload with limit }]
    ⟨"", none⟩

/-- A change of the index. -/
inductive IndexAction where
  | add (document : Document)
  | update (document : Document)
  | remove (id : String)
  | addMany (documents : List Document)
  | clear

namespace IndexAction

/-- The kinds of changes. -/
inductive Tag where
  | add
  | update
  | remove
  | addMany
  | clear
  deriving DecidableEq, Repr

namespace Tag

/-- The name of a kind of change. -/
def name : Tag → String
  | add => "add"
  | update => "update"
  | remove => "remove"
  | addMany => "addMany"
  | clear => "clear"

/-- All kinds of changes. -/
def all : List Tag :=
  [add, update, remove, addMany, clear]

/-- A kind of change. -/
def decoder : Decoder Tag
  | _, .string text => Wire.variant name all text
  | _, source => Wire.mismatch source "variant identifier"

end Tag

/-- A change with one field. -/
def single {α : Type} (variant name : String) (decoder : Decoder α) (blank : α) : Decoder α :=
  Wire.record ("struct variant IndexPayload::" ++ variant)
    [.of name true decoder fun value _ => value] blank

/-- A change without fields. -/
def nothing : Decoder Unit
  | _, .array (item :: rest) _ =>
    .error (.invalidLength (item :: rest).length (Wire.counted 0 "element" ++ " in sequence"))
  | _, _ => .ok ()

/-- The fields of a change of the given kind. -/
def content (now : Timestamp) : Tag → Decoder IndexAction
  | .add => fun origin source =>
    (single "Add" "document" (Document.decoder now) default origin source).map add
  | .update => fun origin source =>
    (single "Update" "document" (Document.decoder now) default origin source).map update
  | .remove => fun origin source => (single "Remove" "id" Wire.string "" origin source).map remove
  | .addMany => fun origin source =>
    (single "AddMany" "documents" (Wire.list (Document.decoder now)) [] origin source).map addMany
  | .clear => fun origin source => (nothing origin source).map fun _ => clear

/-- A change: its kind stands beside its fields, which are set aside until the kind is known, or
before them. -/
def decoder (now : Timestamp) : Decoder IndexAction
  | origin, .object members closed =>
    match members.find? fun (key, _) => key == some "action" with
    | none => .error (.missingField "action")
    | some (_, source) =>
      match Tag.decoder origin source with
      | .error error => .error error
      | .ok tag =>
        let rest := members.filter fun (key, _) => key != some "action"
        content now tag .setAside (.object rest closed)
  | _, .array [] _ => .error (.missingField "action")
  | origin, .array (source :: rest) closed =>
    match Tag.decoder origin source with
    | .error error => .error error
    | .ok tag => content now tag .setAside (.array rest closed)
  | _, source => Wire.mismatch source "internally tagged enum IndexPayload"

end IndexAction
end TextSearch
