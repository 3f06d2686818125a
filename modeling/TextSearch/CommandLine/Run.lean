import TextSearch.CommandLine.Command
import TextSearch.CommandLine.Report

/-!
# Runs of the program

What a run prints and how it ends, given the contents of the file that it loads and the lines that
it is sent.  The program itself only reads and writes.
-/

namespace TextSearch
namespace CommandLine

/-- Why a run fails. -/
inductive Failure where
  | reading (path : String)
  | parsing (path : String)
  | indexing (path : String) (error : IndexError)
  | readingRequest
  | writingResponse
  deriving DecidableEq, Repr

namespace Failure

/-- What was being done. -/
def message : Failure → String
  | reading path => "reading " ++ path
  | parsing path => "parsing " ++ path
  | indexing path _ => "indexing " ++ path
  | readingRequest => "reading request"
  | writingResponse => "writing response"

/-- What went wrong, where it is known. -/
def cause? : Failure → Option String
  | indexing _ error => some error.message
  | _ => none

end Failure

/-- How a run ends. -/
inductive Ending where
  | success
  | failure (failure : Failure)
  | misuse
  /-- The answer could not be written. -/
  | unwritten
  deriving DecidableEq, Repr

/-- The exit code. -/
def Ending.code : Ending → Nat
  | success => 0
  | failure _ => 1
  | misuse => 2
  | unwritten => 101

/-- The name and the version of the program. -/
def versionText : String := "kbsearch 0.3.0"

/-- How the program is used. -/
def helpText : List String := [
  "In-memory full-text search over knowledge-base documents",
  "",
  "Usage: kbsearch <COMMAND>",
  "",
  "Commands:",
  "  serve    Answer JSON-lines requests on stdin, one response per line on stdout",
  "  search   Search a JSON array of documents",
  "  suggest  List index terms that extend a prefix",
  "  stats    Print index counters for a documents file",
  "  help     Print this message"]

/-! ## Loading documents -/

/-- The documents that the text of a file holds. -/
def documentsOfText (now : Timestamp) (text : String) : Option (List Document) :=
  match Json.Source.ofText text with
  | (source, true) =>
    match Wire.list (Document.decoder now) .text source with
    | .ok documents => some documents
    | .error _ => none
  | (_, false) => none

/-- An engine with the documents of a file, which has the given content if it can be read. -/
def load (now : Timestamp) (path : String) (content : Option String) : Except Failure Engine :=
  match content with
  | none => .error (.reading path)
  | some text =>
    match documentsOfText now text with
    | none => .error (.parsing path)
    | some documents =>
      match (Engine.new .standard).addAll documents with
      | .error error => .error (.indexing path error)
      | .ok (engine, _) => .ok engine

/-! ## Single answers -/

/-- The answer to a search. -/
def searchReport (terminal : Terminal) (engine : Engine) (settings : SearchSettings) :
    List String :=
  let options := settings.options
  if settings.json then [outcomeData (engine.searchWith settings.query options)]
  else
    let options :=
      match terminal.marks? with
      | some marks => { options with marks }
      | none => options
    let outcome := engine.searchWith settings.query options
    resultsReport terminal settings.query outcome.results outcome.total outcome.errors

/-- The answer of a command that gives one; each item is a line, or several. -/
def report (terminal : Terminal) (engine : Engine) : Command → List String
  | .serve _ => []
  | .search settings => searchReport terminal engine settings
  | .suggest settings =>
    suggestionsReport terminal settings.beginning
      (engine.suggestions settings.beginning (some settings.limit))
  | .stats settings =>
    if settings.json then [statisticsData engine.statistics]
    else statisticsReport terminal engine.statistics

/-! ## Serving -/

/-- The worker that serves: with the documents of a file, if one is named. -/
def startWorker (now : Timestamp) (settings : ServeSettings) (content : Option String) :
    Except Failure Worker :=
  match settings.preload with
  | none => .ok ⟨.new .standard, settings.progressInterval⟩
  | some path =>
    (load now path content).map fun engine => ⟨engine, settings.progressInterval⟩

/-- Answer one line of input; blank lines are passed over. -/
def serveLine (worker : Worker) (now : Timestamp) (line : String) : Worker × List String :=
  if Text.isAllBlank line then (worker, [])
  else
    let (worker, responses) := worker.handleLine now line
    (worker, responses.map fun response => response.toJson.text .compact)

/-- Answer lines one after the other, as long as answers can be written, and say whether they all
could.  The answers that have been given are held in reverse order. -/
def serveFrom (now : Timestamp) (writable : Bool) (worker : Worker) (given : List String) :
    List String → List String × Bool
  | [] => (given.reverse, true)
  | line :: rest =>
    let (worker, answers) := serveLine worker now line
    if !writable && !answers.isEmpty then (given.reverse, false)
    else serveFrom now writable worker (answers.reverse ++ given) rest

/-! ## What a run does -/

/-- What a run does, once its arguments and its file are known. -/
inductive Course where
  /-- Answer the lines of the input. -/
  | serve (worker : Worker)
  /-- Give an answer, and end well if it can be written. -/
  | answer (lines : List String)
  /-- Tell about the program; the run ends well even if nothing can be written. -/
  | tell (lines : List String)
  | fail (failure : Failure)
  | misuse

namespace Course

/-- Go on with what has been made from the file, or fail. -/
def ofLoaded {α : Type} (next : α → Course) : Except Failure α → Course
  | .ok loaded => next loaded
  | .error failure => fail failure

end Course

/-- What a command does at the given moment, with the content of its file if this can be read. -/
def Command.course (surroundings : Surroundings) (now : Timestamp) (content : Option String)
    (command : Command) : Course :=
  match command with
  | .serve settings => .ofLoaded .serve (startWorker now settings content)
  | command =>
    .ofLoaded (fun engine => .answer (report surroundings.terminal engine command))
      (load now (command.documents?.getD "") content)

namespace Invocation

/-- The file of documents that is loaded. -/
def documents? : Invocation → Option String
  | run command => command.documents?
  | _ => none

/-- What the run does at the given moment, with the content of its file if this can be read. -/
def course (surroundings : Surroundings) (now : Timestamp) (content : Option String) :
    Invocation → Course
  | run command => command.course surroundings now content
  | help => .tell helpText
  | version => .tell [versionText]
  | misuse => .misuse

end Invocation

/-! ## Whole runs -/

/-- What a run meets. -/
structure World where
  surroundings : Surroundings
  now : Timestamp
  /-- The content of a file that can be read. -/
  file? : String → Option String
  /-- The lines of the input. -/
  lines : List String
  /-- The input can be read to its end. -/
  readable : Bool
  /-- The output takes what is written to it. -/
  writable : Bool

/-- What is printed on the way, and the end. -/
def Course.follow (world : World) : Course → List String × Ending
  | serve worker =>
    match serveFrom world.now world.writable worker [] world.lines with
    | (answers, false) => (answers, .failure .writingResponse)
    | (answers, true) =>
      (answers, if world.readable then .success else .failure .readingRequest)
  | answer lines => if world.writable then (lines, .success) else ([], .unwritten)
  | tell lines => (if world.writable then lines else [], .success)
  | fail failure => ([], .failure failure)
  | misuse => ([], .misuse)

/-- Run the program. -/
def run (world : World) (args : List String) : List String × Ending :=
  let invocation := Invocation.ofArguments args
  let content := invocation.documents?.bind world.file?
  (invocation.course world.surroundings world.now content).follow world

end CommandLine
end TextSearch
