import TextSearch.Query.Token
import TextSearch.Query.Tree

/-!
# Chains of operands

Operands are joined from left to right.  A run of operands under one connective is associative, so
it is built as a balanced tree: ten thousand words side by side are fifteen levels high.  Only where
the connective changes, what came before becomes a single operand of the new run.

Every part carries its height, so the limit on heights is checked without walking the trees again.
-/

namespace TextSearch

/-- The two ways to join operands. -/
inductive Connective where
  | and
  | or
  deriving DecidableEq, Repr

namespace Connective

/-- Join two trees. -/
def join : Connective → Query → Query → Query
  | and, left, right => .and left right
  | or, left, right => .or left right

/-- The connective of two operands that stand side by side: a negation restricts what it follows,
anything else widens it. -/
def implied : Query → Connective
  | .not _ => and
  | _ => or

end Connective

/-- A tree that has been read, with its height. -/
structure Part where
  tree : Query
  height : Nat
  deriving DecidableEq, Repr

/-- The balanced tree over a run of operands, in their order; the left half takes the odd one. -/
def balanced (connective : Connective) (run : List Part) : Option Part :=
  match run with
  | [] => none
  | [part] => some part
  | first :: second :: rest =>
    let whole := first :: second :: rest
    let half := (whole.length + 1) / 2
    match balanced connective (whole.take half), balanced connective (whole.drop half) with
    | some left, some right =>
      some ⟨connective.join left.tree right.tree, max left.height right.height + 1⟩
    | _, _ => none
  termination_by run.length
  decreasing_by
    · simp only [List.length_take, List.length_cons]
      omega
    · simp only [List.length_drop, List.length_cons]
      omega

/-- Operands joined so far.  The run under the current connective is held in reverse order, and the
position is where the latest operand begins. -/
structure Chain where
  connective : Option Connective
  run : List Part
  position : Nat
  deriving DecidableEq, Repr

namespace Chain

/-- The chain of one operand. -/
def start (first : Part) (position : Nat) : Chain :=
  ⟨none, [first], position⟩

/-- All operands of the chain as one. -/
def collapse (chain : Chain) : Except SyntaxError Part :=
  match balanced (chain.connective.getD .or) chain.run.reverse with
  | none => .error .unexpectedEnd
  | some part =>
    if part.height > heightLimit then .error (.nestingTooDeep chain.position) else .ok part

/-- Join one more operand, which begins at the given position. -/
def push (chain : Chain) (connective : Connective) (operand : Part) (position : Nat) :
    Except SyntaxError Chain :=
  match chain.connective with
  | none => .ok ⟨some connective, operand :: chain.run, position⟩
  | some current =>
    if current = connective then .ok ⟨some connective, operand :: chain.run, position⟩
    else
      match chain.collapse with
      | .error fault => .error fault
      | .ok part => .ok ⟨some connective, [operand, part], position⟩

end Chain
end TextSearch
