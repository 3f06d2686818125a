import Std.Time.DateTime.Timestamp
import TextSearch.CommandLine.Run

/-!
# The program

Reading and writing around `TextSearch.CommandLine`: the file of documents, the lines of requests,
and the answers.
-/

namespace TextSearch
namespace CommandLine

/-- The present moment. -/
def presentMoment : IO Timestamp := do
  let now ← Std.Time.Timestamp.now
  let nanos := now.toNanosecondsSinceUnixEpoch.val
  return (Timestamp.ofSeconds? (nanos / 1000000000) (nanos % 1000000000).toNat).getD .epoch

/-- What is known of the terminal. -/
def findSurroundings : IO Surroundings := do
  return {
    isTerminal := ← (← IO.getStdout).isTty
    noColor := ← IO.getEnv "NO_COLOR"
    theme := ← IO.getEnv "KBSEARCH_THEME"
    colorFgBg := ← IO.getEnv "COLORFGBG" }

/-- The content of a file, if it can be read as text. -/
def readContent (path : String) : IO (Option String) := do
  try
    return some (← IO.FS.readFile path)
  catch _ => return none

/-- Write a line, and say whether it could be written. -/
def writeLine (line : String) : IO Bool := do
  try
    let output ← IO.getStdout
    output.putStr (line ++ "\n")
    output.flush
    return true
  catch _ => return false

/-- Write lines until one cannot be written, and say whether all could. -/
def writeLines : List String → IO Bool
  | [] => return true
  | line :: rest => do
    if ← writeLine line then writeLines rest else return false

/-- Explain a failure. -/
def complain (failure : Failure) : IO UInt32 := do
  IO.eprintln ("Error: " ++ failure.message)
  if let some cause := failure.cause? then
    IO.eprintln ("\nCaused by:\n    " ++ cause)
  return (Ending.failure failure).code.toUInt32

/-- A line without its end. -/
def withoutEnd (line : String) : String :=
  match line.toList.reverse with
  | '\n' :: '\r' :: cs => .ofList cs.reverse
  | '\n' :: cs => .ofList cs.reverse
  | _ => line

/-- Read a line; nothing, if it is not a text. -/
def readLine (input : IO.FS.Stream) : IO (Option String) := do
  try
    return some (← input.getLine)
  catch _ => return none

/-- Answer requests until the input ends. -/
partial def serve (input : IO.FS.Stream) (worker : Worker) : IO UInt32 := do
  match ← readLine input with
  | none => complain .readingRequest
  | some "" => return Ending.success.code.toUInt32
  | some line =>
    let (worker, answers) := serveLine worker (← presentMoment) (withoutEnd line)
    if ← writeLines answers then serve input worker else complain .writingResponse

/-- Do what a run does. -/
def Course.perform : Course → IO UInt32
  | serve worker => do CommandLine.serve (← IO.getStdin) worker
  | answer lines => do
    if ← writeLines lines then return Ending.success.code.toUInt32
    else return Ending.unwritten.code.toUInt32
  | tell lines => do
    let _ ← writeLines lines
    return Ending.success.code.toUInt32
  | fail failure => complain failure
  | misuse => do
    for line in helpText do IO.eprintln line
    return Ending.misuse.code.toUInt32

end CommandLine
end TextSearch

open TextSearch.CommandLine in
/-- Run the program with the given arguments. -/
def main (args : List String) : IO UInt32 := do
  let invocation := Invocation.ofArguments args
  let content ←
    match invocation.documents? with
    | some path => readContent path
    | none => pure none
  (invocation.course (← findSurroundings) (← presentMoment) content).perform
