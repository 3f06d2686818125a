import TextSearch.Decimal
import TextSearch.Json.Source
import TextSearch.Text.Printable

/-!
# Why a data value has no meaning

A data value may have another shape than the one that is wanted.  The causes are listed here, with
the one function that puts them into words.
-/

namespace TextSearch
namespace Wire

/-- What was found in the place of something else. -/
inductive Found where
  | null
  | bool (value : Bool)
  | int (value : Int)
  | float (value : Float)
  | string (value : String)
  | sequence
  | map
  deriving Repr

namespace Found

/-- What stands in a source, if it is well-formed and has a value. -/
def ofSource? : Json.Source → Option Found
  | .null => some null
  | .bool value => some (bool value)
  | .int value => some (int value)
  | .float value => some (float value)
  | .string value => some (string value)
  | .array _ _ => some sequence
  | .object _ _ => some map
  | .unusable => none
  | .broken => none

/-- A character of a quoted text, where it may not be shown as it is. -/
def quotedChar (c : Char) : List Char :=
  if c = '\x00' then ['\\', '0']
  else if c = '\t' then ['\\', 't']
  else if c = '\r' then ['\\', 'r']
  else if c = '\n' then ['\\', 'n']
  else if c = '"' then ['\\', '"']
  else if c = '\\' then ['\\', '\\']
  else if Text.isPrintable c && !Text.isExtending c then [c]
  else '\\' :: 'u' :: '\x7b' :: Nat.toDigits 16 c.toNat ++ ['\x7d']

/-- A text in quotation marks. -/
def quoted (text : String) : String :=
  "\"" ++ .ofList (text.toList.flatMap quotedChar) ++ "\""

/-- What was found, in words. -/
def describe : Found → String
  | null => "null"
  | bool value => "boolean `" ++ (if value then "true" else "false") ++ "`"
  | int value => "integer `" ++ value.repr ++ "`"
  | float value => "floating point `" ++ (Decimal.plain value).getD "NaN" ++ "`"
  | string value => "string " ++ quoted value
  | sequence => "sequence"
  | map => "map"

end Found

/-- A reason why a data value is not what is wanted. -/
inductive DecodeError where
  /-- The text is not well-formed. -/
  | malformed
  /-- A sequence in a text goes on behind the last item that is wanted. -/
  | trailingCharacters
  | missingField (name : String)
  | duplicateField (name : String)
  | invalidType (found : Found) (expected : String)
  | invalidValue (found : Found) (expected : String)
  | unknownVariant (name : String) (known : List String)
  | invalidLength (length : Nat) (expected : String)
  | badTimestamp
  deriving Repr

namespace DecodeError

/-- A name between marks. -/
def marked (name : String) : String :=
  "`" ++ name ++ "`"

/-- The names that are known, in words. -/
def oneOf : List String → String
  | [a, b] => marked a ++ " or " ++ marked b
  | [a] => marked a
  | names => "one of " ++ String.intercalate ", " (names.map marked)

/-- The message that explains an error. -/
def message : DecodeError → String
  | malformed => "malformed text"
  | trailingCharacters => "trailing characters"
  | missingField name => "missing field " ++ marked name
  | duplicateField name => "duplicate field " ++ marked name
  | invalidType found expected => "invalid type: " ++ found.describe ++ ", expected " ++ expected
  | invalidValue found expected =>
    "invalid value: " ++ found.describe ++ ", expected " ++ expected
  | unknownVariant name known =>
    "unknown variant " ++ marked name ++ ", expected " ++ oneOf known
  | invalidLength length expected =>
    "invalid length " ++ length.repr ++ ", expected " ++ expected
  | badTimestamp => "bad timestamp"

end DecodeError
end Wire
end TextSearch
