import TextSearch.Query.Parse

/-!
# Operands one after the other

How one or two operands are read where nothing else follows: first the operands themselves, then the
loops of conjunctions and disjunctions, which end at once, and the chains of one or two parts.

Main results:

- Theorem `exists_balanced`: every run of operands has a tree, unless it is empty.
- Theorem `expression_eq`: at every level an expression is a disjunction over the groups of this
  level.
- Theorems `disjunction_of_negation` and `disjunction_of_pair`: what one operand and two operands
  with a connective between them are read as.
- Theorems `disjunction_of_failed` and `disjunction_of_failed_pair`: a fault in an operand ends the
  reading.
-/

namespace TextSearch

/-- The symbol of a connective. -/
def Connective.symbol : Connective → Symbol
  | and => .and
  | or => .or

/-- Only the empty run has no tree. -/
theorem exists_balanced (connective : Connective) {run : List Part} (h : run ≠ []) :
    ∃ part, balanced connective run = some part := by
  fun_induction balanced connective run with
  | case1 => contradiction
  | case2 single => exact ⟨single, rfl⟩
  | case3 => exact ⟨_, rfl⟩
  | case4 first second rest whole half hnone ihLeft =>
    rename_i ihRight
    have hleft : whole.take half ≠ [] := by
      simp [whole, half]
    have hright : whole.drop half ≠ [] := by
      simp only [whole, half, Ne, List.drop_eq_nil_iff, List.length_cons]
      omega
    obtain ⟨left, hleft⟩ := ihLeft hleft
    obtain ⟨right, hright⟩ := ihRight hright
    exact absurd hright (hnone left right hleft)

namespace Reader

/-- What an opening parenthesis leads to where groups may still nest to the given number of
levels. -/
def groups (last : Nat) : Nat → Nat → Reader Part
  | 0 => fun position _ noted => .failed (.nestingTooDeep position) noted
  | levels + 1 => inGroup (expression last levels)

/-- An expression is a disjunction whose groups have the levels that are left. -/
theorem expression_eq (last levels : Nat) :
    expression last levels = disjunction (groups last levels) last := by
  cases levels <;> rfl

/-- A chain of one operand finishes as the operand. -/
theorem finish_start {part : Part} (h : part.height ≤ heightLimit) (position : Nat)
    (rest : List Token) (noted : List SyntaxError) :
    finish (.start part position) rest noted = .done part rest noted := by
  have hlow : ¬ part.height > heightLimit := Nat.not_lt.mpr h
  simp [finish, Chain.collapse, Chain.start, balanced, hlow]

/-- A chain of two operands finishes as the tree that joins them. -/
theorem finish_pair (connective : Connective) {left right : Part}
    (h : max left.height right.height + 1 ≤ heightLimit) (position : Nat) (rest : List Token)
    (noted : List SyntaxError) :
    finish ⟨some connective, [right, left], position⟩ rest noted =
      .done ⟨connective.join left.tree right.tree, max left.height right.height + 1⟩
        rest noted := by
  have hlow : ¬ max left.height right.height + 1 > heightLimit := Nat.not_lt.mpr h
  simp only [finish, Chain.collapse, Option.getD_some, List.reverse_cons, List.reverse_nil,
    List.nil_append, List.cons_append, balanced]
  simp [balanced, hlow]

section Operands

variable {group : Nat → Reader Part} {last : Nat}

/-- No conjunction goes on with these tokens. -/
def EndsConjunction (tokens : List Token) : Prop :=
  ∀ token ∈ tokens.head?, token.symbol = .or ∨ token.symbol = .closing

/-- No disjunction goes on with these tokens. -/
def EndsDisjunction (tokens : List Token) : Prop :=
  ∀ token ∈ tokens.head?, token.symbol = .closing

/-- What ends a disjunction ends a conjunction. -/
theorem EndsDisjunction.endsConjunction {tokens : List Token} (h : EndsDisjunction tokens) :
    EndsConjunction tokens := by
  intro token htoken
  right
  exact h token htoken

/-- A token that neither joins to a conjunction nor starts an operand ends it. -/
theorem endsConjunction_cons {token : Token} (hand : token.symbol ≠ .and)
    (hstarts : token.symbol.startsOperand ≠ true) (rest : List Token) :
    EndsConjunction (token :: rest) := by
  intro token' htoken'
  rw [List.head?_cons, Option.mem_some_iff] at htoken'
  rw [← htoken']
  cases hsymbol : token.symbol with
  | or => exact .inl rfl
  | closing => exact .inr rfl
  | and => contradiction
  | _ => simp [hsymbol, Symbol.startsOperand] at hstarts

/-- What ends a conjunction and joins no other one to it ends a disjunction. -/
theorem EndsConjunction.endsDisjunction {token : Token} {rest : List Token}
    (h : EndsConjunction (token :: rest)) (hor : token.symbol ≠ .or) :
    EndsDisjunction (token :: rest) := by
  intro token' htoken'
  rcases h token' htoken' with hsymbol | hsymbol
  · rw [List.head?_cons, Option.mem_some_iff] at htoken'
    rw [← htoken'] at hsymbol
    contradiction
  · exact hsymbol

theorem endsConjunction_or (position : Nat) (rest : List Token) :
    EndsConjunction (⟨.or, position⟩ :: rest) := by
  intro token htoken
  rw [List.head?_cons, Option.mem_some_iff] at htoken
  left
  rw [← htoken]

theorem endsDisjunction_closing (position : Nat) (rest : List Token) :
    EndsDisjunction (⟨.closing, position⟩ :: rest) := by
  intro token htoken
  rw [List.head?_cons, Option.mem_some_iff] at htoken
  rw [← htoken]

/-- Where nothing of a conjunction follows, its chain is finished. -/
theorem conjunctionFrom_of_ends {tokens : List Token} (h : EndsConjunction tokens)
    (rounds : List Token) (chain : Chain) (noted : List SyntaxError) :
    conjunctionFrom group last rounds chain tokens noted = finish chain tokens noted := by
  cases rounds with
  | nil => rfl
  | cons round rounds =>
    cases tokens with
    | nil => rfl
    | cons token tokens =>
      rw [conjunctionFrom]
      rcases h token rfl with hsymbol | hsymbol
      · rw [hsymbol, if_neg (by decide), if_neg (by decide)]
      · rw [hsymbol, if_neg (by decide), if_neg (by decide)]

/-- Where nothing of a disjunction follows, its chain is finished. -/
theorem disjunctionFrom_of_ends {tokens : List Token} (h : EndsDisjunction tokens)
    (rounds : List Token) (chain : Chain) (noted : List SyntaxError) :
    disjunctionFrom group last rounds chain tokens noted = finish chain tokens noted := by
  cases rounds with
  | nil => rfl
  | cons round rounds =>
    cases tokens with
    | nil => rfl
    | cons token tokens =>
      rw [disjunctionFrom, h token rfl, if_neg (by decide)]

/-- An operand that nothing follows is a conjunction. -/
theorem conjunction_of_negation {tokens rest : List Token} {noted noted' : List SyntaxError}
    {part : Part} (h : negation group tokens noted = .done part rest noted')
    (hrest : EndsConjunction rest) (hheight : part.height ≤ heightLimit) :
    conjunction group last tokens noted = .done part rest noted' := by
  rw [conjunction, h]
  dsimp only
  rw [conjunctionFrom_of_ends hrest, finish_start hheight]

/-- An operand that nothing follows is a disjunction. -/
theorem disjunction_of_negation {tokens rest : List Token} {noted noted' : List SyntaxError}
    {part : Part} (h : negation group tokens noted = .done part rest noted')
    (hrest : EndsDisjunction rest) (hheight : part.height ≤ heightLimit) :
    disjunction group last tokens noted = .done part rest noted' := by
  rw [disjunction, conjunction_of_negation h hrest.endsConjunction hheight]
  dsimp only
  rw [disjunctionFrom_of_ends hrest, finish_start hheight]

/-- Two operands with a connective between them are a disjunction. -/
theorem disjunction_of_pair {tokens after rest : List Token}
    {noted noted' noted'' : List SyntaxError} {left right : Part} (last : Nat)
    (connective : Connective) (position : Nat)
    (hleft : negation group tokens noted =
      .done left (⟨connective.symbol, position⟩ :: after) noted')
    (hright : negation group after noted' = .done right rest noted'')
    (hrest : EndsDisjunction rest)
    (hheight : max left.height right.height + 1 ≤ heightLimit) :
    disjunction group last tokens noted =
      .done ⟨connective.join left.tree right.tree, max left.height right.height + 1⟩
        rest noted'' := by
  have hlow : left.height ≤ heightLimit ∧ right.height ≤ heightLimit := by omega
  cases connective with
  | and =>
    have hconjunction : conjunction group last tokens noted =
        .done ⟨.and left.tree right.tree, max left.height right.height + 1⟩ rest noted'' := by
      rw [conjunction, hleft]
      dsimp only [Connective.symbol]
      rw [conjunctionFrom, if_pos rfl, hright]
      dsimp only [Chain.push, Chain.start]
      rw [conjunctionFrom_of_ends hrest.endsConjunction, finish_pair .and hheight]
      rfl
    rw [disjunction, hconjunction]
    dsimp only
    rw [disjunctionFrom_of_ends hrest, finish_start hheight]
    rfl
  | or =>
    rw [disjunction, conjunction_of_negation hleft (endsConjunction_or position after) hlow.1]
    dsimp only [Connective.symbol]
    rw [disjunctionFrom, if_pos rfl,
      conjunction_of_negation hright hrest.endsConjunction hlow.2]
    dsimp only [Chain.push, Chain.start]
    rw [disjunctionFrom_of_ends hrest, finish_pair .or hheight]

/-- Where the first operand cannot be read, nothing is. -/
theorem disjunction_of_failed {tokens : List Token} {noted noted' : List SyntaxError}
    {fault : SyntaxError} (h : negation group tokens noted = .failed fault noted') :
    disjunction group last tokens noted = .failed fault noted' := by
  rw [disjunction, conjunction, h]

/-- Where the second of two operands cannot be read, nothing is. -/
theorem disjunction_of_failed_pair {tokens after : List Token}
    {noted noted' noted'' : List SyntaxError} {left : Part} {fault : SyntaxError} (last : Nat)
    (connective : Connective) (position : Nat)
    (hleft : negation group tokens noted =
      .done left (⟨connective.symbol, position⟩ :: after) noted')
    (hright : negation group after noted' = .failed fault noted'')
    (hheight : left.height ≤ heightLimit) :
    disjunction group last tokens noted = .failed fault noted'' := by
  cases connective with
  | and =>
    rw [disjunction, conjunction, hleft]
    dsimp only [Connective.symbol]
    rw [conjunctionFrom, if_pos rfl, hright]
  | or =>
    rw [disjunction, conjunction_of_negation hleft (endsConjunction_or position after) hheight]
    dsimp only [Connective.symbol]
    rw [disjunctionFrom, if_pos rfl, conjunction, hright]

end Operands

end Reader
end TextSearch
