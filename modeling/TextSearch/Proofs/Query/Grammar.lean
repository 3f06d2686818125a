import TextSearch.Proofs.Query.Canonical
import TextSearch.Proofs.Query.Simulation

/-!
# The grammar of queries

A derivation says how a list of symbols comes from the grammar.  It is a tree with one constructor
for each production; repetitions are written from the left, so the operands of a conjunction are
those before the last one, and the last one.  A derivation tells what was written, how deeply its
groups nest, and which tree it stands for: runs of operands under one connective are balanced.

A group whose closing parenthesis is missing has a production of its own, because such a group is
read too; the sentences of the grammar are the derivations without it.

Main results:

- Theorem `balanced_map_ofTree`: the balanced tree over parts is the balanced tree over their trees,
  with its height.
- Theorem `Run.height_le_tree`: no operand is higher than the tree of its run.
- Theorem `Chain.Holds.collapse` and `Chain.Holds.push`: chains work on runs, within the limit.
-/

namespace TextSearch

/-! ## Leaves -/

/-- What is an operand by itself, or the value of a field. -/
inductive Leaf where
  | term (value : String)
  | phrase (value : String)
  | wildcard (pattern : String)
  | range (low high : String)

namespace Leaf

/-- The symbol of a leaf. -/
def symbol : Leaf → Symbol
  | term value => .term value
  | phrase value => .phrase value
  | wildcard pattern => .wildcard pattern
  | range low high => .range low high

/-- The tree of a leaf. -/
def tree : Leaf → Query
  | term value => .term value
  | phrase value => .phrase value
  | wildcard pattern => .wildcard pattern
  | range low high => .range low high

/-- The symbol of a leaf stands for the leaf by itself. -/
theorem leaf?_symbol (leaf : Leaf) : Reader.leaf? leaf.symbol = some leaf.tree := by
  cases leaf <;> rfl

/-- Every symbol with a leaf is the symbol of this leaf. -/
theorem exists_of_leaf? {symbol : Symbol} {value : Query}
    (h : Reader.leaf? symbol = some value) : ∃ leaf : Leaf, leaf.symbol = symbol ∧
      leaf.tree = value := by
  cases symbol with
  | term text => exact ⟨term text, rfl, Option.some.inj h⟩
  | phrase text => exact ⟨phrase text, rfl, Option.some.inj h⟩
  | wildcard pattern => exact ⟨wildcard pattern, rfl, Option.some.inj h⟩
  | range low high => exact ⟨range low high, rfl, Option.some.inj h⟩
  | _ => simp [Reader.leaf?] at h

@[simp]
theorem height_tree (leaf : Leaf) : leaf.tree.height = 1 := by
  cases leaf <;> rfl

end Leaf

/-! ## Runs -/

/-- The balanced tree over operands, in their order; the left half takes the odd one.  There is no
run without operands. -/
def Connective.balance (connective : Connective) (operands : List Query) : Query :=
  match operands with
  | [] => default
  | [operand] => operand
  | first :: second :: rest =>
    let whole := first :: second :: rest
    let half := (whole.length + 1) / 2
    connective.join (connective.balance (whole.take half)) (connective.balance (whole.drop half))
  termination_by operands.length
  decreasing_by
    · simp only [List.length_take, List.length_cons]
      omega
    · simp only [List.length_drop, List.length_cons]
      omega

/-- Operands under one connective, in their order.  A single operand needs no connective. -/
structure Run where
  connective : Option Connective
  first : Query
  further : List Query

namespace Run

/-- The run of one operand. -/
def single (tree : Query) : Run :=
  ⟨none, tree, []⟩

/-- All operands of the run. -/
def operands (run : Run) : List Query :=
  run.first :: run.further

/-- The operands of the run as one tree. -/
def tree (run : Run) : Query :=
  (run.connective.getD .or).balance run.operands

/-- Join one more operand.  Under another connective, the operands so far become the first operand
of a new run. -/
def extend (run : Run) (connective : Connective) (operand : Query) : Run :=
  if run.connective.all (· = connective) then
    ⟨some connective, run.first, run.further ++ [operand]⟩
  else ⟨some connective, run.tree, [operand]⟩

@[simp]
theorem operands_single (tree : Query) : (single tree).operands = [tree] :=
  rfl

@[simp]
theorem tree_single (tree : Query) : (single tree).tree = tree := by
  rw [Run.tree, operands_single, Connective.balance]

/-- A run has at least one operand. -/
theorem operands_ne_nil (run : Run) : run.operands ≠ [] := by
  simp [operands]

/-- A connective that does not change makes the run longer. -/
theorem extend_of_all {run : Run} {connective : Connective}
    (h : run.connective.all (· = connective) = true) (operand : Query) :
    run.extend connective operand = ⟨some connective, run.first, run.further ++ [operand]⟩ := by
  rw [extend, if_pos h]

/-- Another connective begins a new run. -/
theorem extend_of_not_all {run : Run} {connective : Connective}
    (h : ¬ run.connective.all (· = connective) = true) (operand : Query) :
    run.extend connective operand = ⟨some connective, run.tree, [operand]⟩ := by
  rw [extend, if_neg h]

end Run

/-- The part of a tree whose height is known. -/
def Part.ofTree (tree : Query) : Part :=
  ⟨tree, tree.height⟩

@[simp]
theorem Part.tree_ofTree (tree : Query) : (Part.ofTree tree).tree = tree :=
  rfl

@[simp]
theorem Part.height_ofTree (tree : Query) : (Part.ofTree tree).height = tree.height :=
  rfl

/-- The balanced tree over parts is the balanced tree over their trees, with its height. -/
theorem balanced_map_ofTree (connective : Connective) {operands : List Query}
    (h : operands ≠ []) :
    balanced connective (operands.map Part.ofTree) =
      some (.ofTree (connective.balance operands)) := by
  fun_induction Connective.balance connective operands with
  | case1 => contradiction
  | case2 operand => simp [balanced]
  | case3 first second rest whole half ihLeft ihRight =>
    have hleft : whole.take half ≠ [] := by
      simp [whole, half]
    have hright : whole.drop half ≠ [] := by
      simp only [whole, half, Ne, List.drop_eq_nil_iff, List.length_cons]
      omega
    have hleftPart := ihLeft hleft
    have hrightPart := ihRight hright
    rw [List.map_take] at hleftPart
    rw [List.map_drop] at hrightPart
    have hlength : (whole.map Part.ofTree).length = whole.length := List.length_map _
    simp only [whole, half, List.map_cons, List.length_cons] at hleftPart hrightPart ⊢
    rw [balanced]
    simp only [List.length_cons, List.length_map, hleftPart, hrightPart]
    simp [Part.ofTree, Query.height_join]

/-- No operand is higher than the balanced tree. -/
theorem height_le_balance (connective : Connective) {operands : List Query} {operand : Query}
    (h : operand ∈ operands) : operand.height ≤ (connective.balance operands).height := by
  fun_induction Connective.balance connective operands with
  | case1 => simp at h
  | case2 single =>
    rw [List.mem_singleton.mp h]
  | case3 first second rest whole half ihLeft ihRight =>
    rw [Query.height_join]
    have hsplit : operand ∈ whole.take half ++ whole.drop half := by
      rw [List.take_append_drop]
      exact h
    rcases List.mem_append.mp hsplit with hmem | hmem
    · have hle := ihLeft hmem
      omega
    · have hle := ihRight hmem
      omega

namespace Run

/-- No operand of the run is higher than the limit. -/
def IsLow (run : Run) : Prop :=
  ∀ operand ∈ run.operands, operand.height ≤ heightLimit

/-- No operand is higher than the tree of its run. -/
theorem height_le_tree {run : Run} {operand : Query} (h : operand ∈ run.operands) :
    operand.height ≤ run.tree.height :=
  height_le_balance _ h

/-- A run whose tree is within the height has low operands. -/
theorem isLow_of_tree {run : Run} (h : run.tree.height ≤ heightLimit) : run.IsLow := by
  intro operand hmem
  exact Nat.le_trans (height_le_tree hmem) h

/-- Where no operand of a longer run is too high, none was before, and neither is the tree of a run
that has ended. -/
theorem isLow_of_extend {run : Run} {connective : Connective} {operand : Query}
    (h : (run.extend connective operand).IsLow) :
    run.IsLow ∧ operand.height ≤ heightLimit ∧
      (run.connective.all (· = connective) = true ∨ run.tree.height ≤ heightLimit) := by
  by_cases hsame : run.connective.all (· = connective) = true
  · rw [extend_of_all hsame] at h
    have hmem : ∀ tree ∈ run.operands ++ [operand], tree.height ≤ heightLimit := by
      intro tree htree
      exact h tree (by simpa [operands] using htree)
    refine ⟨?_, ?_, .inl hsame⟩
    · intro tree htree
      exact hmem tree (List.mem_append_left _ htree)
    · exact hmem operand (by simp)
  · rw [extend_of_not_all hsame] at h
    have htree : run.tree.height ≤ heightLimit := h run.tree (by simp [operands])
    have hoperand : operand.height ≤ heightLimit := h operand (by simp [operands])
    exact ⟨isLow_of_tree htree, hoperand, .inr htree⟩

end Run

/-! ## Chains and runs -/

/-- The chain holds the operands of the run, with their heights. -/
structure Chain.Holds (chain : Chain) (run : Run) : Prop where
  connective : chain.connective = run.connective
  operands : chain.run.reverse = run.operands.map Part.ofTree

/-- A chain started with an operand holds the run of that operand. -/
theorem Chain.holds_start (tree : Query) (position : Nat) :
    (Chain.start (.ofTree tree) position).Holds (.single tree) :=
  ⟨rfl, rfl⟩

namespace Chain.Holds

variable {chain : Chain} {run : Run}

/-- The operands of the chain become the tree of the run, unless it is too high. -/
theorem collapse (h : chain.Holds run) :
    chain.collapse =
      if run.tree.height > heightLimit then .error (.nestingTooDeep chain.position)
      else .ok (.ofTree run.tree) := by
  rw [Chain.collapse, h.connective, h.operands, balanced_map_ofTree _ run.operands_ne_nil]
  rfl

/-- One more operand extends the run. -/
theorem push (h : chain.Holds run) {connective : Connective} {operand : Query} {position : Nat}
    {next : Chain} (hpush : chain.push connective (.ofTree operand) position = .ok next) :
    next.Holds (run.extend connective operand) := by
  have hcollapse := h.collapse
  rcases h with ⟨hconnective, hoperands⟩
  rw [Chain.push] at hpush
  by_cases hsame : run.connective.all (· = connective) = true
  · rw [Run.extend_of_all hsame]
    have hnext : next = ⟨some connective, .ofTree operand :: chain.run, position⟩ := by
      cases hcurrent : chain.connective with
      | none =>
        rw [hcurrent] at hpush
        exact (Except.ok.inj hpush).symm
      | some current =>
        rw [← hconnective, hcurrent] at hsame
        rw [hcurrent] at hpush
        simp only [Option.all_some, decide_eq_true_eq] at hsame
        simp only [if_pos hsame] at hpush
        exact (Except.ok.inj hpush).symm
    rw [hnext]
    refine ⟨rfl, ?_⟩
    simp [hoperands, Run.operands]
  · rw [Run.extend_of_not_all hsame]
    cases hcurrent : chain.connective with
    | none =>
      rw [← hconnective, hcurrent] at hsame
      simp at hsame
    | some current =>
      rw [← hconnective, hcurrent] at hsame
      rw [hcurrent, hcollapse] at hpush
      simp only [Option.all_some, decide_eq_true_eq] at hsame
      simp only [if_neg hsame] at hpush
      by_cases hhigh : run.tree.height > heightLimit
      · simp [hhigh] at hpush
      · simp only [if_neg hhigh, Except.ok.injEq] at hpush
        rw [← hpush]
        exact ⟨rfl, rfl⟩

/-- One more operand can be joined, as long as no operand of the longer run is too high. -/
theorem exists_push (h : chain.Holds run) {connective : Connective} {operand : Query}
    (hlow : (run.extend connective operand).IsLow) (position : Nat) :
    ∃ next, chain.push connective (.ofTree operand) position = .ok next ∧
      next.Holds (run.extend connective operand) := by
  have hnext : ∃ next, chain.push connective (.ofTree operand) position = .ok next := by
    have hended := (Run.isLow_of_extend hlow).2.2
    rw [Chain.push]
    cases hcurrent : chain.connective with
    | none => exact ⟨_, rfl⟩
    | some current =>
      by_cases hsame : current = connective
      · exact ⟨_, if_pos hsame⟩
      · rw [← h.connective, hcurrent] at hended
        have htree : ¬ run.tree.height > heightLimit := by
          simpa [hsame] using hended
        simp [hsame, h.collapse, htree]
  rcases hnext with ⟨next, hnext⟩
  exact ⟨next, hnext, h.push hnext⟩

end Chain.Holds

/-! ## Derivations -/

/-- The categories of the grammar, from the tightest binding to the loosest. -/
inductive Category where
  | primary
  | negation
  | conjunction
  | disjunction

/-- How a list of symbols comes from the grammar. -/
inductive Derivation : Category → Type where
  /-- `primary := term | phrase | wildcard | range` -/
  | leaf (value : Leaf) : Derivation .primary
  /-- `primary := field (term | phrase | wildcard | range)` -/
  | field (name : String) (value : Leaf) : Derivation .primary
  /-- `primary := "(" disjunction ")"` -/
  | group (inside : Derivation .disjunction) : Derivation .primary
  /-- `primary := "(" disjunction`, which is read, but is not of the grammar. -/
  | unclosed (inside : Derivation .disjunction) : Derivation .primary
  /-- `negation := primary` -/
  | ofPrimary (operand : Derivation .primary) : Derivation .negation
  /-- `negation := "NOT" primary` -/
  | not (operand : Derivation .primary) : Derivation .negation
  /-- `conjunction := negation` -/
  | ofNegation (first : Derivation .negation) : Derivation .conjunction
  /-- `conjunction := conjunction "AND" negation` -/
  | and (before : Derivation .conjunction) (next : Derivation .negation) : Derivation .conjunction
  /-- `conjunction := conjunction negation` -/
  | beside (before : Derivation .conjunction) (next : Derivation .negation) :
    Derivation .conjunction
  /-- `disjunction := conjunction` -/
  | ofConjunction (first : Derivation .conjunction) : Derivation .disjunction
  /-- `disjunction := disjunction "OR" conjunction` -/
  | or (before : Derivation .disjunction) (next : Derivation .conjunction) :
    Derivation .disjunction

namespace Derivation

/-- The symbols that are derived. -/
def symbols {category : Category} : Derivation category → List Symbol
  | leaf value => [value.symbol]
  | field name value => [.field name, value.symbol]
  | group inside => .opening :: (inside.symbols ++ [.closing])
  | unclosed inside => .opening :: inside.symbols
  | ofPrimary operand => operand.symbols
  | not operand => .not :: operand.symbols
  | ofNegation first => first.symbols
  | and before next => before.symbols ++ .and :: next.symbols
  | beside before next => before.symbols ++ next.symbols
  | ofConjunction first => first.symbols
  | or before next => before.symbols ++ .or :: next.symbols

/-- The greatest number of groups that are within each other. -/
def nesting {category : Category} : Derivation category → Nat
  | leaf _ => 0
  | field _ _ => 0
  | group inside => inside.nesting + 1
  | unclosed inside => inside.nesting + 1
  | ofPrimary operand => operand.nesting
  | not operand => operand.nesting
  | ofNegation first => first.nesting
  | and before next => max before.nesting next.nesting
  | beside before next => max before.nesting next.nesting
  | ofConjunction first => first.nesting
  | or before next => max before.nesting next.nesting

/-- The number of groups whose closing parentheses are missing. -/
def unclosedGroups {category : Category} : Derivation category → Nat
  | leaf _ => 0
  | field _ _ => 0
  | group inside => inside.unclosedGroups
  | unclosed inside => inside.unclosedGroups + 1
  | ofPrimary operand => operand.unclosedGroups
  | not operand => operand.unclosedGroups
  | ofNegation first => first.unclosedGroups
  | and before next => before.unclosedGroups + next.unclosedGroups
  | beside before next => before.unclosedGroups + next.unclosedGroups
  | ofConjunction first => first.unclosedGroups
  | or before next => before.unclosedGroups + next.unclosedGroups

/-- The operands of the outermost run. -/
def run {category : Category} : Derivation category → Run
  | leaf value => .single value.tree
  | field name value => .single (.field name value.tree)
  | group inside => .single inside.run.tree
  | unclosed inside => .single inside.run.tree
  | ofPrimary operand => .single operand.run.tree
  | not operand => .single (.not operand.run.tree)
  | ofNegation first => .single first.run.tree
  | and before next => before.run.extend .and next.run.tree
  | beside before next => before.run.extend (.implied next.run.tree) next.run.tree
  | ofConjunction first => .single first.run.tree
  | or before next => before.run.extend .or next.run.tree

/-- The tree that is built, in which runs under one connective are balanced. -/
def tree {category : Category} (derivation : Derivation category) : Query :=
  derivation.run.tree

/-- The symbols are a sentence of the grammar with this derivation: no parenthesis is missing. -/
structure Derives (derivation : Derivation .disjunction) (symbols : List Symbol) : Prop where
  symbols_eq : derivation.symbols = symbols
  closed : derivation.unclosedGroups = 0

/-! ## First symbols -/

/-- A primary begins like an operand, and not with a negation. -/
theorem exists_symbols_primary (derivation : Derivation .primary) :
    ∃ symbol rest, derivation.symbols = symbol :: rest ∧ symbol.startsOperand = true ∧
      symbol ≠ .not := by
  cases derivation with
  | leaf value =>
    have hleaf := value.leaf?_symbol
    exact ⟨value.symbol, [], rfl, Reader.startsOperand_of_leaf hleaf, Reader.ne_not_of_leaf hleaf⟩
  | field name value => exact ⟨_, _, rfl, rfl, by simp⟩
  | group inside => exact ⟨_, _, rfl, rfl, by simp⟩
  | unclosed inside => exact ⟨_, _, rfl, rfl, by simp⟩

/-- Every derivation begins with a symbol that may begin an operand. -/
theorem exists_symbols {category : Category} (derivation : Derivation category) :
    ∃ symbol rest, derivation.symbols = symbol :: rest ∧ symbol.startsOperand = true := by
  have happend : ∀ {xs : List Symbol} (ys : List Symbol),
      (∃ symbol rest, xs = symbol :: rest ∧ symbol.startsOperand = true) →
      ∃ symbol rest, xs ++ ys = symbol :: rest ∧ symbol.startsOperand = true := by
    rintro xs ys ⟨symbol, rest, rfl, hstarts⟩
    exact ⟨symbol, rest ++ ys, rfl, hstarts⟩
  induction derivation with
  | leaf value => exact ⟨value.symbol, [], rfl, Reader.startsOperand_of_leaf value.leaf?_symbol⟩
  | field name value => exact ⟨_, _, rfl, rfl⟩
  | group inside _ => exact ⟨_, _, rfl, rfl⟩
  | unclosed inside _ => exact ⟨_, _, rfl, rfl⟩
  | ofPrimary operand ih => exact ih
  | not operand _ => exact ⟨_, _, rfl, rfl⟩
  | ofNegation first ih => exact ih
  | and before next ih _ => exact happend _ ih
  | beside before next ih _ => exact happend _ ih
  | ofConjunction first ih => exact ih
  | or before next ih _ => exact happend _ ih

theorem symbols_ne_nil {category : Category} (derivation : Derivation category) :
    derivation.symbols ≠ [] := by
  rcases derivation.exists_symbols with ⟨symbol, rest, hsymbols, -⟩
  simp [hsymbols]

end Derivation

end TextSearch
