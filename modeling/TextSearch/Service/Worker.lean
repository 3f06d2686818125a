import TextSearch.Engine
import TextSearch.Service.Request
import TextSearch.Wire.Options
import TextSearch.Wire.Outcome

/-!
# The worker

A worker carries out requests on an engine of its own, one at a time.  Every request gets exactly
one response that tells its success or its failure; a large batch of documents gets progress
responses before it.  A batch is added in chunks, and a failure on the way would leave what it finds
behind: nothing here takes a change back.
-/

namespace TextSearch

/-- The kinds of responses. -/
inductive ResponseKind where
  | success
  | error
  | progress
  deriving DecidableEq, Repr

/-- The name of a kind of response. -/
def ResponseKind.name : ResponseKind → String
  | success => "success"
  | error => "error"
  | progress => "progress"

/-- A response. -/
structure Response where
  /-- The identifier of the request. -/
  id : Json
  kind : ResponseKind
  payload : Json

namespace Response

/-- The request was carried out. -/
def success (id payload : Json) : Response :=
  ⟨id, .success, payload⟩

/-- The request was not carried out. -/
def error (id : Json) (message : String) : Response :=
  ⟨id, .error, .object [("message", .string message)]⟩

/-- So many documents of a batch have been added. -/
def progress (id : Json) (indexed total : Nat) : Response :=
  ⟨id, .progress, .object [("indexed", .ofNat indexed), ("total", .ofNat total)]⟩

/-- The data value of a response, in the order in which it is written. -/
def toJson (response : Response) : Json :=
  .object [
    ("id", response.id),
    ("type", .string response.kind.name),
    ("payload", response.payload)]

end Response

/-- The number of documents between two progress responses when none is given. -/
def standardProgressInterval : Nat := 100

/-- An engine that carries out requests. -/
structure Worker where
  engine : Engine
  /-- The number of documents between two progress responses; zero for no such responses. -/
  progressInterval : Nat

namespace Worker

/-- Read a payload for a kind of request. -/
def decode {α : Type} (request : String) (decoder : Wire.Decoder α) (payload : Json) :
    Except ServiceError α :=
  match decoder .value (.ofJson payload) with
  | .ok value => .ok value
  | .error error => .error (.invalidPayload request error.message)

/-! ## Questions -/

/-- The standard options of the engine with others laid over them, key by key. -/
def mergedOptions (defaults : Options) : Json → Except ServiceError Options
  | .object overrides =>
    match defaults.toJson with
    | .object base => decode "search" Options.decoder (Json.record (base ++ overrides))
    | other => decode "search" Options.decoder other
  | _ => .error (.invalidPayload "search" "options must be an object")

/-- Answer a search request. -/
def search (engine : Engine) (payload : Json) : Except ServiceError Json := do
  let wanted ← decode "search" SearchPayload.decoder payload
  let options ←
    match wanted.options with
    | none => pure engine.defaults
    | some overrides => mergedOptions engine.defaults overrides
  pure (engine.searchWith wanted.query options).toJson

/-- Answer a request for suggestions. -/
def suggest (engine : Engine) (payload : Json) : Except ServiceError Json := do
  let wanted ← decode "suggest" SuggestPayload.decoder payload
  pure (Json.strings (engine.suggestions wanted.beginning wanted.limit))

/-! ## Changes -/

/-- What carrying out a request leaves, also where it fails on the way. -/
structure Effect where
  engine : Engine
  /-- The responses before the last one. -/
  sent : List Response
  /-- The payload of the last response, or what it tells of the failure. -/
  result : Except ServiceError Json

namespace Effect

/-- Nothing is changed, and only one response is sent. -/
def unchanged (engine : Engine) (result : Except ServiceError Json) : Effect :=
  ⟨engine, [], result⟩

/-- One operation changes the engine or is refused. -/
def ofChange (engine : Engine) (payload : Json) : Except IndexError Engine → Effect
  | .ok changed => ⟨changed, [], .ok payload⟩
  | .error error => ⟨engine, [], .error (.refused error)⟩

end Effect

/-- The payload that tells how many documents were added. -/
def indexed (count : Nat) : Json :=
  .object [("indexed", .ofNat count)]

/-- Add the rest of a batch in chunks of `interval + 1` documents, `added` of `total` having been
added.  A chunk that is refused ends the work, but what was added and sent before it stays.  The
responses are held in reverse order. -/
def addChunks (id : Json) (interval total added : Nat) (engine : Engine)
    (sent : List Response) (documents : List Document) : Effect :=
  match documents with
  | [] => ⟨engine, sent.reverse, .ok (indexed added)⟩
  | first :: rest =>
    match engine.addAll ((first :: rest).take (interval + 1)) with
    | .error error => ⟨engine, sent.reverse, .error (.refused error)⟩
    | .ok (engine, count) =>
      let added := added + count
      let sent := if added < total then .progress id added total :: sent else sent
      addChunks id interval total added engine sent ((first :: rest).drop (interval + 1))
  termination_by documents.length
  decreasing_by
    simp only [List.length_drop, List.length_cons]
    omega

/-- Add a batch of documents.  All of them are checked before the first is added. -/
def addMany (worker : Worker) (id : Json) (documents : List Document) : Effect :=
  if !documents.all Document.isAddressable then
    .unchanged worker.engine (.error (.refused .missingDocumentId))
  else
    match worker.progressInterval with
    | 0 =>
      .ofChange worker.engine (indexed documents.length)
        ((worker.engine.addAll documents).map (·.1))
    | interval + 1 => addChunks id interval documents.length 0 worker.engine [] documents

/-- Carry out a change. -/
def change (worker : Worker) (id : Json) : IndexAction → Effect
  | .add document => .ofChange worker.engine (indexed 1) (worker.engine.add document)
  | .update document => .ofChange worker.engine (indexed 1) (worker.engine.update document)
  | .remove documentId =>
    let (engine, removed) := worker.engine.remove documentId
    ⟨engine, [], .ok (.object [("removed", .bool removed)])⟩
  | .addMany documents => worker.addMany id documents
  | .clear => ⟨worker.engine.clear, [], .ok (.object [("cleared", .bool true)])⟩

/-- Carry out an index request; `now` stands for moments that are not given. -/
def index (worker : Worker) (now : Timestamp) (id payload : Json) : Effect :=
  match decode "index" (IndexAction.decoder now) payload with
  | .error error => .unchanged worker.engine (.error error)
  | .ok action => worker.change id action

/-! ## Requests -/

/-- Carry out a request. -/
def effect (worker : Worker) (now : Timestamp) (request : Request) : Effect :=
  if request.kind = "search" then .unchanged worker.engine (search worker.engine request.payload)
  else if request.kind = "index" then worker.index now request.id request.payload
  else if request.kind = "suggest" then
    .unchanged worker.engine (suggest worker.engine request.payload)
  else if request.kind = "stats" then
    .unchanged worker.engine (.ok worker.engine.statistics.toJson)
  else .unchanged worker.engine (.error (.unknownRequestType request.kind))

/-- The last response to a request. -/
def lastResponse (id : Json) : Except ServiceError Json → Response
  | .ok payload => .success id payload
  | .error error => .error id error.message

/-- Handle a request: the worker after it, and its responses. -/
def handle (worker : Worker) (now : Timestamp) (request : Request) : Worker × List Response :=
  let effect := worker.effect now request
  ({ worker with engine := effect.engine },
    effect.sent ++ [lastResponse request.id effect.result])

/-- The message for a line that is no request.  What the reader of data values adds of its own is
left out: its text for a line that is not well-formed, and the line and column that it puts behind
every fault. -/
def malformedMessage : Wire.DecodeError → String
  | .malformed => "malformed request"
  | error => "malformed request: " ++ error.message

/-- Handle a line of text.  A line that is no request gets a response without an identifier. -/
def handleLine (worker : Worker) (now : Timestamp) (line : String) : Worker × List Response :=
  match Request.ofText line with
  | .ok request => worker.handle now request
  | .error error => (worker, [.error .null (malformedMessage error)])

end Worker
end TextSearch
