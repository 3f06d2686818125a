import TextSearch.Index.Table

/-!
# Data values

The values that requests and documents are written in, with JSON as their text.  Whole numbers are
apart from numbers with a fraction or an exponent.

The members of an object that stands for a mapping are listed by ascending keys, each key once;
`Json.record` makes such an object from any list of pairs.  Reports that are printed for people list
their members in an order of their own.
-/

namespace TextSearch

/-- A data value. -/
inductive Json where
  | null
  | bool (value : Bool)
  | int (value : Int)
  | float (value : Float)
  | string (value : String)
  | array (items : List Json)
  | object (members : List (String × Json))
  deriving Repr, Inhabited

namespace Json

/-- A number that may lie beyond all data values; then there is nothing to say. -/
def ofFloat (x : Float) : Json :=
  if x.isFinite then float x else null

/-- A count. -/
def ofNat (n : Nat) : Json :=
  int n

/-- A list of texts. -/
def strings (texts : List String) : Json :=
  array (texts.map string)

/-- A text that may be missing. -/
def optionalString : Option String → Json
  | none => null
  | some text => string text

/-- The object with the given pairs, by ascending keys; of two pairs with one key the later
counts. -/
def record (pairs : List (String × Json)) : Json :=
  object (Table.ofList pairs).entries

/-- The value of a member of an object. -/
def member? (key : String) : Json → Option Json
  | object members => (members.find? fun member => member.1 == key).map (·.2)
  | _ => none

/-- The members of an object with the given keys, in the order of these keys. -/
def arranged (keys : List String) : Json → Json
  | object members =>
    object (keys.filterMap fun key => ((object members).member? key).map fun value => (key, value))
  | value => value

end Json
end TextSearch
