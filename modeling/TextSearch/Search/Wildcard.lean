import TextSearch.Search.AutomatonSize

/-!
# Wildcards

In a wildcard `*` stands for any run of characters and `?` for one character, neither for line ends;
all other characters stand for themselves and their other case forms.  The whole text has to match.

A wildcard is written down as a regular expression, in which all characters but these two are
protected where they would mean something else, and the pieces to be matched are read off the
expression.

Matching works from the end of the wildcard to its beginning.  For each of its pieces there is a row
that says, of every end of the text, whether the pieces from there on match it, and the row of a
piece follows from the row behind it in one pass.
-/

namespace TextSearch

/-- A piece of a wildcard. -/
inductive WildcardPiece where
  | letter (c : Char)
  | one
  | many
  deriving DecidableEq, Repr

namespace WildcardPiece

/-- The sizes of the automata for a piece. -/
def size : WildcardPiece → Nat × Nat
  | letter c => AutomatonSize.ofLetter c
  | one => AutomatonSize.anyChar
  | many => AutomatonSize.anyRun

/-- The piece matches the character. -/
def accepts : WildcardPiece → Char → Bool
  | letter l, c => Text.sameLetter l c
  | one, c => c != '\n'
  | many, c => c != '\n'

end WildcardPiece

/-- A wildcard as its pieces. -/
abbrev Wildcard := List WildcardPiece

namespace Wildcard

/-! ## Expressions -/

/-- The character has a meaning of its own in expressions. -/
def isSpecial (c : Char) : Bool :=
  ['\\', '.', '+', '*', '?', '(', ')', '|', '[', ']', '{', '}', '^', '$', '#', '&', '-',
    '~'].contains c

/-- The expression for a text that stands for itself. -/
def escape (cs : List Char) : List Char :=
  cs.flatMap fun c => if isSpecial c then ['\\', c] else [c]

/-- Write characters that stand for themselves.  Both lists are held in reverse order. -/
def write (written waiting : List Char) : List Char :=
  (escape waiting.reverse).reverse ++ written

/-- The expression for the rest of a pattern.  Characters that stand for themselves wait until one
that does not, or the end of the pattern, is met. -/
def expressionFrom (written waiting : List Char) : List Char → List Char
  | [] => (write written waiting).reverse
  | '*' :: cs => expressionFrom ('*' :: '.' :: write written waiting) [] cs
  | '?' :: cs => expressionFrom ('.' :: write written waiting) [] cs
  | c :: cs => expressionFrom written (c :: waiting) cs

/-- The expression for a text that stands for itself, followed by a pattern: from the beginning of
a text to its end, in any case. -/
def expression (literal pattern : String) : String :=
  "(?i)^" ++ .ofList (escape literal.toList) ++ .ofList (expressionFrom [] [] pattern.toList) ++ "$"

/-- The pieces that follow in an expression, up to its end.  What has been read is held in reverse
order. -/
def piecesFrom (found : Wildcard) : List Char → Option Wildcard
  | [] => none
  | ['$'] => some found.reverse
  | '\\' :: c :: cs => if isSpecial c then piecesFrom (.letter c :: found) cs else none
  | '.' :: '*' :: cs => piecesFrom (.many :: found) cs
  | '.' :: cs => piecesFrom (.one :: found) cs
  | c :: cs => if isSpecial c then none else piecesFrom (.letter c :: found) cs

/-- The pieces of an expression that stands for whole texts in any case. -/
def ofExpression? (expression : String) : Option Wildcard :=
  match expression.toList with
  | '(' :: '?' :: 'i' :: ')' :: '^' :: cs => piecesFrom [] cs
  | _ => none

/-- The sizes of the automata for a wildcard. -/
def size (wildcard : Wildcard) : Nat × Nat :=
  (wildcard.map WildcardPiece.size).foldl AutomatonSize.plus AutomatonSize.anchored

/-- The wildcard of a text that stands for itself, followed by a pattern, unless it would be too
large. -/
def compile? (literal pattern : String) : Option Wildcard :=
  (ofExpression? (expression literal pattern)).filter fun wildcard =>
    AutomatonSize.affordable wildcard.size

/-! ## Matching -/

/-- The row behind the last piece: only the empty end of the text is left. -/
def lastRow (text : List Char) : List Bool :=
  text.map (fun _ => false) ++ [true]

/-- The row of a piece that takes one character, from the row behind it. -/
def stepRow (piece : WildcardPiece) (text : List Char) (row : List Bool) : List Bool :=
  List.zipWith (fun c rest => piece.accepts c && rest) text row.tail ++ [false]

/-- The row of a piece that takes any run of characters, from the row behind it. -/
def runRow (text : List Char) (row : List Bool) : List Bool :=
  (text.zip row).foldr
    (fun (c, here) done => (here || (WildcardPiece.many.accepts c && done.headD false)) :: done)
    [row.getLastD false]

/-- The row of a piece, from the row behind it. -/
def row (text : List Char) (piece : WildcardPiece) (behind : List Bool) : List Bool :=
  match piece with
  | .many => runRow text behind
  | piece => stepRow piece text behind

/-- The wildcard matches the whole text. -/
def accepts (wildcard : Wildcard) (text : List Char) : Bool :=
  (wildcard.foldr (row text) (lastRow text)).headD false

end Wildcard
end TextSearch
