/-!
# Query trees

The meaning of a query is a tree: terms, phrases, wildcards and ranges are leaves, a field holds one
leaf, and trees are joined by *and*, *or* and *not*.  `Query.canonical` writes a tree with all
parentheses of its binary nodes.

A query may also be faulty.  Unmatched parentheses are noted and the query is read on; every other
error is fatal, and the query is then taken as a single term.
-/

namespace TextSearch

/-! ## Trees -/

/-- A query as a tree. -/
inductive Query where
  | term (value : String)
  /-- Quoted text, without the marks and with the protected characters as they are. -/
  | phrase (value : String)
  /-- A text in which `*` stands for any run of characters and `?` for one character. -/
  | wildcard (pattern : String)
  | field (name : String) (value : Query)
  /-- Two bounds.  Ranges are read, but no document is in one. -/
  | range (low high : String)
  | and (left right : Query)
  | or (left right : Query)
  | not (operand : Query)
  deriving DecidableEq, Repr, Inhabited

namespace Query

/-- The number of nodes on the longest way from the root to a leaf. -/
def height : Query → Nat
  | field _ value => value.height + 1
  | and left right => max left.height right.height + 1
  | or left right => max left.height right.height + 1
  | not operand => operand.height + 1
  | _ => 1

/-- The inside of a phrase: quotation marks and backslashes are protected by a backslash. -/
def protect (cs : List Char) : List Char :=
  cs.flatMap fun c => if c = '"' ∨ c = '\\' then ['\\', c] else [c]

@[simp]
theorem protect_nil : protect [] = [] :=
  rfl

@[simp]
theorem protect_cons (c : Char) (cs : List Char) :
    protect (c :: cs) = (if c = '"' ∨ c = '\\' then ['\\', c] else [c]) ++ protect cs :=
  rfl

/-- The canonical text of a tree. -/
def canonical : Query → String
  | term value => value
  | phrase value => "\"" ++ .ofList (protect value.toList) ++ "\""
  | wildcard pattern => pattern
  | field name value => name ++ ":" ++ value.canonical
  | range low high => "[" ++ low ++ " TO " ++ high ++ "]"
  | and left right => "(" ++ left.canonical ++ " AND " ++ right.canonical ++ ")"
  | or left right => "(" ++ left.canonical ++ " OR " ++ right.canonical ++ ")"
  | not operand => "NOT " ++ operand.canonical

end Query

/-! ## Syntax errors -/

/-- The greatest height of a query tree, and the greatest number of groups open at one place. -/
def heightLimit : Nat := 64

/-- A fault of a query.  Positions are offsets of characters in the query. -/
inductive SyntaxError where
  | emptyQuery
  | unexpectedToken (found : String) (position : Nat)
  | unexpectedEnd
  | missingFieldValue (field : String) (position : Nat)
  | unclosedGroup (position : Nat)
  | unmatchedClosing (position : Nat)
  | nestingTooDeep (position : Nat)
  deriving DecidableEq, Repr, Inhabited

namespace SyntaxError

/-- The fault leaves no tree to read on with. -/
def isFatal : SyntaxError → Bool
  | unclosedGroup _ | unmatchedClosing _ => false
  | _ => true

/-- The message that explains a fault. -/
def message : SyntaxError → String
  | emptyQuery => "query is empty"
  | unexpectedToken found position =>
    "unexpected '" ++ found ++ "' at position " ++ position.repr
  | unexpectedEnd => "query ends where an operand was expected"
  | missingFieldValue field position =>
    "field '" ++ field ++ "' at position " ++ position.repr ++ " has no value"
  | unclosedGroup position => "group opened at position " ++ position.repr ++ " is never closed"
  | unmatchedClosing position => "unmatched ')' at position " ++ position.repr
  | nestingTooDeep position =>
    "query nests more than " ++ heightLimit.repr ++ " levels deep at position " ++ position.repr

end SyntaxError

end TextSearch
