import TextSearch.Json.Numeral
import TextSearch.Json.Value

/-!
# Texts of data values, as a reader meets them

A reader that knows which members it wants goes through a text from left to right and may find a
fault in what it has read before it comes to a place where the text breaks off.  A `Source` keeps
what such a reader needs: members in the order of the text, repeated keys, and the place where the
text stops being well-formed.

Some parts are well-formed but have no value: numbers beyond the doubles, texts with half of a
surrogate pair, and containers that lie too deep.  They do no harm where nobody wants their value.

The reader keeps the open containers on a stack of its own, so deep nesting costs it nothing.
-/

namespace TextSearch
namespace Json

/-- A data value as it stands in a text. -/
inductive Source where
  | null
  | bool (value : Bool)
  | int (value : Int)
  | float (value : Float)
  | string (value : String)
  /-- The items that were read, and whether the closing bracket was. -/
  | array (items : List Source) (closed : Bool)
  /-- The members that were read, and whether the closing brace was.  A key may have no value as a
  text. -/
  | object (members : List (Option String × Source)) (closed : Bool)
  /-- Well-formed, but without a value. -/
  | unusable
  /-- Not well-formed. -/
  | broken
  deriving Repr, Inhabited

/-- The greatest number of containers that may be open at one place. -/
def nestingLimit : Nat := 127

namespace Source

/-! ## Values as sources -/

mutual

/-- The source of a value. -/
def ofJson : Json → Source
  | .null => null
  | .bool value => bool value
  | .int value => int value
  | .float value => float value
  | .string value => string value
  | .array items => array (itemsFrom [] items) true
  | .object members => object (membersFrom [] members) true

/-- The sources of items, behind those already made, which are held in reverse order. -/
def itemsFrom (made : List Source) : List Json → List Source
  | [] => made.reverse
  | item :: rest => itemsFrom (ofJson item :: made) rest

/-- The sources of members, behind those already made, which are held in reverse order. -/
def membersFrom (made : List (Option String × Source)) :
    List (String × Json) → List (Option String × Source)
  | [] => made.reverse
  | (key, value) :: rest => membersFrom ((some key, ofJson value) :: made) rest

end

mutual

/-- The value of a source; of members with one key the last counts. -/
def toJson? : Source → Option Json
  | null => some .null
  | bool value => some (.bool value)
  | int value => some (.int value)
  | float value => some (.float value)
  | string value => some (.string value)
  | array items closed => if closed then (itemValues? [] items).map .array else none
  | object members closed => if closed then (memberValues? [] members).map .record else none
  | unusable => none
  | broken => none

/-- The values of items, behind those already found, which are held in reverse order. -/
def itemValues? (found : List Json) : List Source → Option (List Json)
  | [] => some found.reverse
  | item :: rest =>
    match toJson? item with
    | none => none
    | some value => itemValues? (value :: found) rest

/-- The values of members, behind those already found, which are held in reverse order. -/
def memberValues? (found : List (String × Json)) :
    List (Option String × Source) → Option (List (String × Json))
  | [] => some found.reverse
  | (none, _) :: _ => none
  | (some key, member) :: rest =>
    match toJson? member with
    | none => none
    | some value => memberValues? ((key, value) :: found) rest

end

/-! ## Reading -/

/-- The characters that may stand between the parts of a text. -/
def isGap (c : Char) : Bool :=
  c == ' ' || c == '\n' || c == '\t' || c == '\r'

/-- The value of a hexadecimal digit. -/
def hexValue? (c : Char) : Option Nat :=
  if c.isDigit then some (c.toNat - '0'.toNat)
  else if 'a' ≤ c ∧ c ≤ 'f' then some (c.toNat - 'a'.toNat + 10)
  else if 'A' ≤ c ∧ c ≤ 'F' then some (c.toNat - 'A'.toNat + 10)
  else none

/-- The sixteen-bit unit with the given four digits. -/
def unit? (a b c d : Char) : Option Nat :=
  match hexValue? a, hexValue? b, hexValue? c, hexValue? d with
  | some a, some b, some c, some d => some (((a * 16 + b) * 16 + c) * 16 + d)
  | _, _, _, _ => none

/-- The character behind a backslash. -/
def escaped? : Char → Option Char
  | '"' => some '"'
  | '\\' => some '\\'
  | '/' => some '/'
  | 'b' => some '\x08'
  | 'f' => some '\x0c'
  | 'n' => some '\n'
  | 'r' => some '\r'
  | 't' => some '\t'
  | _ => none

/-- The rest of a quoted text, and what follows its closing mark.  What has been read is held in
reverse order; `high` is the first half of a surrogate pair if it has just been read, and `paired`
says that all earlier halves were paired. -/
def textFrom (read : List Char) (high : Option Nat) (paired : Bool) :
    List Char → Option (Option String × List Char)
  | [] => none
  | '"' :: cs => some (if paired && high.isNone then some (.ofList read.reverse) else none, cs)
  | '\\' :: 'u' :: a :: b :: c :: d :: cs =>
    match unit? a b c d with
    | none => none
    | some unit =>
      if 0xD800 ≤ unit ∧ unit < 0xDC00 then textFrom read (some unit) (paired && high.isNone) cs
      else if 0xDC00 ≤ unit ∧ unit < 0xE000 then
        match high with
        | none => textFrom read none false cs
        | some first =>
          let pair := 0x10000 + (first - 0xD800) * 0x400 + (unit - 0xDC00)
          textFrom (Char.ofNat pair :: read) none paired cs
      else textFrom (Char.ofNat unit :: read) none (paired && high.isNone) cs
  | '\\' :: c :: cs =>
    match escaped? c with
    | none => none
    | some c => textFrom (c :: read) none (paired && high.isNone) cs
  | c :: cs =>
    if c.toNat < 0x20 then none else textFrom (c :: read) none (paired && high.isNone) cs

/-- An open container: what has been read of it, in reverse order. -/
inductive Open where
  | items (read : List Source)
  /-- The key is that of the member that is being read. -/
  | members (read : List (Option String × Source)) (key : Option String)

/-- Containers around each other, the innermost first, and their number. -/
structure Nest where
  stack : List Open
  depth : Nat

/-- What the text breaks off in, given the value where it does. -/
def breakOff (value : Source) : List Open → Source
  | [] => value
  | .items read :: stack => breakOff (array (value :: read).reverse false) stack
  | .members read key :: stack => breakOff (object ((key, value) :: read).reverse false) stack

/-- The value of a container, unless it lies too deep. -/
def contained (depth : Nat) (value : Source) : Source :=
  if nestingLimit < depth then unusable else value

/-- A value at the beginning of a text, if it is not a container. -/
def scalar? : List Char → Option (Source × List Char)
  | 'n' :: 'u' :: 'l' :: 'l' :: cs => some (null, cs)
  | 't' :: 'r' :: 'u' :: 'e' :: cs => some (bool true, cs)
  | 'f' :: 'a' :: 'l' :: 's' :: 'e' :: cs => some (bool false, cs)
  | '"' :: cs =>
    match textFrom [] none true cs with
    | none => none
    | some (some text, cs) => some (string text, cs)
    | some (none, cs) => some (unusable, cs)
  | cs =>
    match Numeral.read? cs with
    | none => none
    | some (.int value, cs) => some (int value, cs)
    | some (.float value, cs) => some (float value, cs)
    | some (.outOfRange, cs) => some (unusable, cs)

/-- What the reader is about to do. -/
inductive State where
  /-- Read a value. -/
  | value
  /-- Read the key of a member, behind the members already read. -/
  | key (read : List (Option String × Source))
  /-- Put a value that has been read where it belongs. -/
  | place (value : Source)

/-- The source of a text whose first part has been read, and what follows it; nothing follows where
the text breaks off.  Each round but the last takes at least one character, so the number of
characters bounds the rounds. -/
def readFrom (rounds : Nat) (nest : Nest) (state : State) (text : List Char) :
    Source × Option (List Char) :=
  let cs := text.dropWhile isGap
  match rounds, state with
  | 0, _ => (broken, none)
  | rounds + 1, .value =>
    match cs with
    | '[' :: cs =>
      match cs.dropWhile isGap with
      | ']' :: cs =>
        readFrom rounds nest (.place (contained (nest.depth + 1) (array [] true))) cs
      | cs => readFrom rounds ⟨.items [] :: nest.stack, nest.depth + 1⟩ .value cs
    | '{' :: cs =>
      match cs.dropWhile isGap with
      | '}' :: cs =>
        readFrom rounds nest (.place (contained (nest.depth + 1) (object [] true))) cs
      | cs => readFrom rounds ⟨nest.stack, nest.depth + 1⟩ (.key []) cs
    | cs =>
      match scalar? cs with
      | some (value, cs) => readFrom rounds nest (.place value) cs
      | none => (breakOff broken nest.stack, none)
  | rounds + 1, .key read =>
    match cs with
    | '"' :: cs =>
      match textFrom [] none true cs with
      | none => (breakOff (object read.reverse false) nest.stack, none)
      | some (key, cs) =>
        match cs.dropWhile isGap with
        | ':' :: cs => readFrom rounds ⟨.members read key :: nest.stack, nest.depth⟩ .value cs
        | _ => (breakOff (object ((key, broken) :: read).reverse false) nest.stack, none)
    | _ => (breakOff (object read.reverse false) nest.stack, none)
  | rounds + 1, .place value =>
    match nest.stack with
    | [] => (value, some cs)
    | .items read :: stack =>
      match cs with
      | ',' :: cs => readFrom rounds ⟨.items (value :: read) :: stack, nest.depth⟩ .value cs
      | ']' :: cs =>
        let whole := contained nest.depth (array (value :: read).reverse true)
        readFrom rounds ⟨stack, nest.depth - 1⟩ (.place whole) cs
      | _ => (breakOff (array (value :: read).reverse false) stack, none)
    | .members read key :: stack =>
      match cs with
      | ',' :: cs => readFrom rounds ⟨stack, nest.depth⟩ (.key ((key, value) :: read)) cs
      | '}' :: cs =>
        let whole := contained nest.depth (object ((key, value) :: read).reverse true)
        readFrom rounds ⟨stack, nest.depth - 1⟩ (.place whole) cs
      | _ => (breakOff (object ((key, value) :: read).reverse false) stack, none)

/-- The source of a text, and whether nothing follows it. -/
def ofText (text : String) : Source × Bool :=
  let cs := text.toList
  match readFrom (cs.length + 1) ⟨[], 0⟩ .value cs with
  | (source, rest) => (source, rest == some [])

end Source

/-- The value of a whole text. -/
def ofText? (text : String) : Option Json :=
  match Source.ofText text with
  | (source, true) => source.toJson?
  | (_, false) => none

end Json
end TextSearch
