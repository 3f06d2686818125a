import TextSearch.Decimal
import TextSearch.Json.Value

/-!
# Texts of data values

A value is written on one line without any gaps, or with one item or member a line, each level two
columns further in.
-/

namespace TextSearch
namespace Json

/-- How the parts of a value are set out. -/
inductive Layout where
  | compact
  | indented
  deriving DecidableEq, Repr

/-- The two digits behind `\u00` for a control character. -/
def controlDigits (n : Nat) : List Char :=
  [Nat.digitChar (n / 16), Nat.digitChar (n % 16)]

/-- A character inside quotation marks. -/
def escaped (c : Char) : List Char :=
  if c = '"' then ['\\', '"']
  else if c = '\\' then ['\\', '\\']
  else if c = '\x08' then ['\\', 'b']
  else if c = '\x0c' then ['\\', 'f']
  else if c = '\n' then ['\\', 'n']
  else if c = '\r' then ['\\', 'r']
  else if c = '\t' then ['\\', 't']
  else if c.toNat < 0x20 then ['\\', 'u', '0', '0'] ++ controlDigits c.toNat
  else [c]

/-- A text between quotation marks. -/
def quoted (text : String) : String :=
  "\"" ++ .ofList (text.toList.flatMap escaped) ++ "\""

/-- The beginning of the line of an item at the given level. -/
def Layout.line (layout : Layout) (level : Nat) : String :=
  match layout with
  | .compact => ""
  | .indented => "\n" ++ .ofList (List.replicate (2 * level) ' ')

/-- What stands between a key and its value. -/
def Layout.colon : Layout → String
  | .compact => ":"
  | .indented => ": "

mutual

/-- Put the text of a value behind what has been written. -/
def write (layout : Layout) (level : Nat) (done : String) : Json → String
  | null => done ++ "null"
  | bool value => done ++ (if value then "true" else "false")
  | int value => done ++ value.repr
  | float value => done ++ (Decimal.plain value).getD "null"
  | string value => done ++ quoted value
  | array [] => done ++ "[]"
  | array (item :: rest) =>
    let first := write layout (level + 1) (done ++ "[" ++ layout.line (level + 1)) item
    writeItems layout (level + 1) first rest ++ layout.line level ++ "]"
  | object [] => done ++ "\x7b\x7d"
  | object ((key, value) :: rest) =>
    let head := done ++ "\x7b" ++ layout.line (level + 1) ++ quoted key ++ layout.colon
    let first := write layout (level + 1) head value
    writeMembers layout (level + 1) first rest ++ layout.line level ++ "\x7d"

/-- Put the texts of further items behind what has been written. -/
def writeItems (layout : Layout) (level : Nat) (done : String) : List Json → String
  | [] => done
  | item :: rest =>
    writeItems layout level (write layout level (done ++ "," ++ layout.line level) item) rest

/-- Put the texts of further members behind what has been written. -/
def writeMembers (layout : Layout) (level : Nat) (done : String) :
    List (String × Json) → String
  | [] => done
  | (key, value) :: rest =>
    let head := done ++ "," ++ layout.line level ++ quoted key ++ layout.colon
    writeMembers layout level (write layout level head value) rest

end

/-- The text of a value. -/
def text (layout : Layout) (value : Json) : String :=
  write layout 0 "" value

end Json
end TextSearch
