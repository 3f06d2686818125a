import TextSearch.Query.Chain

/-!
# Reading a query

The grammar, from the loosest binding to the tightest:

```text
expression  := conjunction ("OR" conjunction)*
conjunction := negation ("AND" negation | negation)*
negation    := "NOT" primary | primary
primary     := "(" expression ")" | field value | range | phrase | wildcard | term
```

Two operands side by side bind as tightly as *and*.  The reader looks one token ahead and never goes
back.  A group without its closing parenthesis and a closing parenthesis without its group are
noted, and reading goes on; any other fault ends it, and the whole query is then one term.

Groups nest by recursion on the number of levels that may still be opened.  The loops over operands
have one round for each token that is left when they begin: every round takes at least one token, so
the rounds never run out before the tokens do.
-/

namespace TextSearch

/-- What one step of reading leaves: its value, the tokens that follow, and the faults noted so far,
latest first; or the fault that ended the reading, after those noted before it. -/
inductive Step (α : Type) where
  | done (value : α) (rest : List Token) (noted : List SyntaxError)
  | failed (fault : SyntaxError) (noted : List SyntaxError)
  deriving Repr

/-- A way to read something off the tokens, given the faults noted so far. -/
abbrev Reader (α : Type) := List Token → List SyntaxError → Step α

namespace Reader

/-- The position of the next token; behind the last token it is the position of that token. -/
def positionAt (last : Nat) : List Token → Nat
  | [] => last
  | token :: _ => token.position

/-- The leaf that a symbol stands for. -/
def leaf? : Symbol → Option Query
  | .term value => some (.term value)
  | .phrase value => some (.phrase value)
  | .wildcard pattern => some (.wildcard pattern)
  | .range low high => some (.range low high)
  | _ => none

/-- All operands of the chain as one, without reading on. -/
def finish (chain : Chain) : Reader Part := fun rest noted =>
  match chain.collapse with
  | .ok part => .done part rest noted
  | .error fault => .failed fault noted

/-- The value of a field whose name was read at the given position. -/
def fieldValue (name : String) (position : Nat) : Reader Part
  | [], noted => .failed (.missingFieldValue name position) noted
  | token :: rest, noted =>
    match leaf? token.symbol with
    | some value => .done ⟨.field name value, 2⟩ rest noted
    | none => .failed (.missingFieldValue name position) noted

/-- A primary.  What an opening parenthesis leads to is a parameter. -/
def primary (group : Nat → Reader Part) : Reader Part
  | [], noted => .failed .unexpectedEnd noted
  | token :: rest, noted =>
    match token.symbol with
    | .opening => group token.position rest noted
    | .field name => fieldValue name token.position rest noted
    | symbol =>
      match leaf? symbol with
      | some value => .done ⟨value, 1⟩ rest noted
      | none => .failed (.unexpectedToken symbol.describe token.position) noted

/-- A primary, perhaps negated. -/
def negation (group : Nat → Reader Part) : Reader Part
  | ⟨.not, position⟩ :: rest, noted =>
    match primary group rest noted with
    | .failed fault noted => .failed fault noted
    | .done operand rest noted =>
      if operand.height ≥ heightLimit then .failed (.nestingTooDeep position) noted
      else .done ⟨.not operand.tree, operand.height + 1⟩ rest noted
  | tokens, noted => primary group tokens noted

/-- The further operands of a conjunction. -/
def conjunctionFrom (group : Nat → Reader Part) (last : Nat) :
    List Token → Chain → Reader Part
  | [], chain, tokens, noted => finish chain tokens noted
  | _ :: rounds, chain, tokens, noted =>
    match tokens with
    | [] => finish chain tokens noted
    | token :: rest =>
      if token.symbol = .and then
        match negation group rest noted with
        | .failed fault noted => .failed fault noted
        | .done operand after noted =>
          match chain.push .and operand (positionAt last rest) with
          | .error fault => .failed fault noted
          | .ok chain => conjunctionFrom group last rounds chain after noted
      else if token.symbol.startsOperand then
        match negation group tokens noted with
        | .failed fault noted => .failed fault noted
        | .done operand after noted =>
          match chain.push (Connective.implied operand.tree) operand token.position with
          | .error fault => .failed fault noted
          | .ok chain => conjunctionFrom group last rounds chain after noted
      else finish chain tokens noted

/-- A conjunction: negations joined by *and* or side by side. -/
def conjunction (group : Nat → Reader Part) (last : Nat) : Reader Part := fun tokens noted =>
  match negation group tokens noted with
  | .failed fault noted => .failed fault noted
  | .done first rest noted =>
    conjunctionFrom group last rest (.start first (positionAt last tokens)) rest noted

/-- The further conjunctions of a disjunction. -/
def disjunctionFrom (group : Nat → Reader Part) (last : Nat) :
    List Token → Chain → Reader Part
  | [], chain, tokens, noted => finish chain tokens noted
  | _ :: rounds, chain, tokens, noted =>
    match tokens with
    | [] => finish chain tokens noted
    | token :: rest =>
      if token.symbol = .or then
        match conjunction group last rest noted with
        | .failed fault noted => .failed fault noted
        | .done operand after noted =>
          match chain.push .or operand (positionAt last rest) with
          | .error fault => .failed fault noted
          | .ok chain => disjunctionFrom group last rounds chain after noted
      else finish chain tokens noted

/-- A disjunction: conjunctions joined by *or*. -/
def disjunction (group : Nat → Reader Part) (last : Nat) : Reader Part := fun tokens noted =>
  match conjunction group last tokens noted with
  | .failed fault noted => .failed fault noted
  | .done first rest noted =>
    disjunctionFrom group last rest (.start first (positionAt last tokens)) rest noted

/-- The closing parenthesis of a group; the missing one is noted. -/
def close (part : Part) (position : Nat) : Reader Part
  | ⟨.closing, _⟩ :: rest, noted => .done part rest noted
  | rest, noted => .done part rest (.unclosedGroup position :: noted)

/-- The inside of a group that was opened at the given position, and its end. -/
def inGroup (inside : Reader Part) (position : Nat) : Reader Part := fun tokens noted =>
  match inside tokens noted with
  | .failed fault noted => .failed fault noted
  | .done part rest noted => close part position rest noted

/-- An expression in which groups may nest to the given number of levels. -/
def expression (last : Nat) : Nat → Reader Part
  | 0 => disjunction (fun position _ noted => .failed (.nestingTooDeep position) noted) last
  | levels + 1 => disjunction (inGroup (expression last levels)) last

/-- What follows the first expression of a query: closing parentheses without a group, which are
noted, and further expressions. -/
def queryFrom (last : Nat) : List Token → Chain → Reader Part
  | [], chain, tokens, noted => finish chain tokens noted
  | _ :: rounds, chain, tokens, noted =>
    match tokens with
    | [] => finish chain tokens noted
    | token :: rest =>
      if token.symbol = .closing then
        queryFrom last rounds chain rest (.unmatchedClosing token.position :: noted)
      else
        match expression last heightLimit tokens noted with
        | .failed fault noted => .failed fault noted
        | .done operand after noted =>
          match chain.push (Connective.implied operand.tree) operand token.position with
          | .error fault => .failed fault noted
          | .ok chain => queryFrom last rounds chain after noted

/-- A whole query. -/
def query (last : Nat) : Reader Part := fun tokens noted =>
  match expression last heightLimit tokens noted with
  | .failed fault noted => .failed fault noted
  | .done first rest noted =>
    queryFrom last rest (.start first (positionAt last tokens)) rest noted

end Reader

/-! ## Queries as texts -/

/-- A tree for a query, and what was wrong with the query. -/
structure Parsed where
  tree : Query
  errors : List SyntaxError
  deriving DecidableEq, Repr

namespace Parsed

/-- Something was wrong. -/
def hasError (parsed : Parsed) : Bool :=
  !parsed.errors.isEmpty

end Parsed

/-- The whole text as one term, where it cannot be read as a query. -/
def Query.rawTerm (raw : String) : Query :=
  .term (Text.trim raw)

/-- Read a query.  There is always a tree. -/
def parse (raw : String) : Parsed :=
  match (tokens raw).getLast? with
  | none => ⟨.rawTerm raw, [.emptyQuery]⟩
  | some last =>
    match Reader.query last.position (tokens raw) [] with
    | .done part _ noted => ⟨part.tree, noted.reverse⟩
    | .failed fault noted => ⟨.rawTerm raw, (fault :: noted).reverse⟩

end TextSearch
