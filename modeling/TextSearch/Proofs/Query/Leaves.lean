import TextSearch.Proofs.Query.Reading

/-!
# The leaves of a tree that is read

Operands travel far until they are in the tree: through runs that are halved, through chains at
three levels, through groups, and past closing parentheses without a group.  None is lost on the
way, none is doubled and no two change places, and the same holds of negations.

What carries this is the list of the marks of a tree: its operands and its negations, in the order
in which it is written.  To join two trees is to append their marks, whatever the connective; so a
run has the marks of its operands, balanced or not.

Main results:

- Theorem `Run.marks_extend`: one more operand appends its marks.
- Theorem `Derivation.marks_tree`: the tree of a derivation has the marks of its symbols.
- Theorem `Reader.marks_of_query`: what is read has the marks of all tokens.
- Theorem `leaves_parse`: operands, negations and joints of a query that is read to its end.
-/

namespace TextSearch

/-! ## Marks -/

namespace Symbol

/-- The symbol is an operand by itself, or the name of a field. -/
@[simp]
def isOperand : Symbol → Bool
  | term _ | phrase _ | wildcard _ | range _ _ | field _ => true
  | _ => false

/-- The symbol is of an operand or a negation; the other symbols only arrange these. -/
@[simp]
def isMark : Symbol → Bool
  | and | or | opening | closing => false
  | _ => true

/-- Operands are marks. -/
theorem isMark_of_isOperand {symbol : Symbol} (h : symbol.isOperand = true) :
    symbol.isMark = true := by
  cases symbol with
  | and => contradiction
  | or => contradiction
  | opening => contradiction
  | closing => contradiction
  | _ => rfl

/-- The operands among the marks are all operands. -/
theorem filter_isOperand_filter_isMark (symbols : List Symbol) :
    (symbols.filter isMark).filter isOperand = symbols.filter isOperand := by
  rw [List.filter_filter]
  apply List.filter_congr
  intro symbol hmem
  cases hoperand : symbol.isOperand with
  | false => rfl
  | true => exact isMark_of_isOperand hoperand

end Symbol

namespace Query

/-- The symbols of the leaves from left to right.  A field is its name and then its value. -/
def leaves : Query → List Symbol
  | term value => [.term value]
  | phrase value => [.phrase value]
  | wildcard pattern => [.wildcard pattern]
  | range low high => [.range low high]
  | field name value => .field name :: value.leaves
  | and left right => left.leaves ++ right.leaves
  | or left right => left.leaves ++ right.leaves
  | not operand => operand.leaves

/-- The number of leaves.  A field is one leaf together with its value. -/
def size : Query → Nat
  | and left right => left.size + right.size
  | or left right => left.size + right.size
  | not operand => operand.size
  | _ => 1

/-- The number of negations. -/
def negations : Query → Nat
  | field _ value => value.negations
  | and left right => left.negations + right.negations
  | or left right => left.negations + right.negations
  | not operand => operand.negations + 1
  | _ => 0

/-- The number of places where two trees are joined by a connective. -/
def joints : Query → Nat
  | field _ value => value.joints
  | and left right => left.joints + right.joints + 1
  | or left right => left.joints + right.joints + 1
  | not operand => operand.joints
  | _ => 0

/-- The operands and the negations of a tree in the order in which it is written. -/
def marks : Query → List Symbol
  | term value => [.term value]
  | phrase value => [.phrase value]
  | wildcard pattern => [.wildcard pattern]
  | range low high => [.range low high]
  | field name value => .field name :: value.marks
  | and left right => left.marks ++ right.marks
  | or left right => left.marks ++ right.marks
  | not operand => .not :: operand.marks

/-- Without the negations, the marks of a tree are its leaves. -/
theorem filter_marks (tree : Query) : tree.marks.filter Symbol.isOperand = tree.leaves := by
  induction tree with
  | field name value ih => simp [marks, leaves, List.filter_cons, ih]
  | and left right ihLeft ihRight => simp [marks, leaves, ihLeft, ihRight]
  | or left right ihLeft ihRight => simp [marks, leaves, ihLeft, ihRight]
  | not operand ih => simp [marks, leaves, ih]
  | _ => rfl

/-- The *not* marks of a tree count its negations. -/
theorem count_marks (tree : Query) : tree.marks.count .not = tree.negations := by
  induction tree with
  | field name value ih => simp [marks, negations, ih]
  | and left right ihLeft ihRight => simp [marks, negations, ihLeft, ihRight]
  | or left right ihLeft ihRight => simp [marks, negations, ihLeft, ihRight]
  | not operand ih => simp [marks, negations, ih]
  | _ => simp [marks, negations]

/-- A joined tree has the marks of its operands, in order. -/
theorem marks_join (connective : Connective) (left right : Query) :
    (connective.join left right).marks = left.marks ++ right.marks := by
  cases connective <;> rfl

/-- What a symbol stands for by itself is one leaf without joints. -/
theorem joints_of_leaf {symbol : Symbol} {value : Query}
    (h : Reader.leaf? symbol = some value) : value.joints = 0 ∧ value.size = 1 := by
  obtain ⟨leaf, -, rfl⟩ := Leaf.exists_of_leaf? h
  cases leaf <;> exact ⟨rfl, rfl⟩

/-- There is one joint less than there are leaves. -/
theorem Legible.joints_add_one {tree : Query} (h : tree.Legible) :
    tree.joints + 1 = tree.size := by
  induction h with
  | leaf hspelled hleaf => simp [joints_of_leaf hleaf]
  | field hname hspelled hleaf => simp [joints, size, joints_of_leaf hleaf]
  | not hoperand ih => simpa [joints, size] using ih
  | join connective hleft hright ihLeft ihRight =>
    cases connective with
    | and =>
      simp only [Connective.join, joints, size]
      omega
    | or =>
      simp only [Connective.join, joints, size]
      omega

end Query

namespace Leaf

/-- The only mark of a leaf is its symbol. -/
theorem marks_tree (leaf : Leaf) : leaf.tree.marks = [leaf.symbol] := by
  cases leaf <;> rfl

theorem isMark_symbol (leaf : Leaf) : leaf.symbol.isMark = true := by
  cases leaf <;> rfl

end Leaf

/-! ## Runs and derivations -/

/-- A balanced tree has the marks of its operands, in their order. -/
theorem Connective.marks_balance (connective : Connective) {operands : List Query}
    (h : operands ≠ []) :
    (connective.balance operands).marks = operands.flatMap Query.marks := by
  fun_induction Connective.balance connective operands with
  | case1 => contradiction
  | case2 operand => simp
  | case3 first second rest whole half ihLeft ihRight =>
    have hleft : whole.take half ≠ [] := by
      simp [whole, half]
    have hright : whole.drop half ≠ [] := by
      simp only [whole, half, Ne, List.drop_eq_nil_iff, List.length_cons]
      omega
    rw [Query.marks_join, ihLeft hleft, ihRight hright, ← List.flatMap_append,
      List.take_append_drop]

namespace Run

/-- The tree of a run has the marks of the operands, in order: balancing moves none. -/
theorem marks_tree (run : Run) : run.tree.marks = run.operands.flatMap Query.marks :=
  Connective.marks_balance _ run.operands_ne_nil

/-- One more operand appends its marks, whether it makes the run longer or begins a new one. -/
theorem marks_extend (run : Run) (connective : Connective) (operand : Query) :
    (run.extend connective operand).tree.marks = run.tree.marks ++ operand.marks := by
  by_cases hsame : run.connective.all (· = connective) = true
  · rw [extend_of_all hsame, marks_tree, marks_tree]
    simp [operands]
  · rw [extend_of_not_all hsame, marks_tree]
    simp [operands]

end Run

/-- The tree of a derivation has the marks of the symbols that are derived. -/
theorem Derivation.marks_tree {category : Category} (derivation : Derivation category) :
    derivation.tree.marks = derivation.symbols.filter Symbol.isMark := by
  induction derivation with
  | leaf value =>
    rw [symbols, List.filter_cons_of_pos value.isMark_symbol, List.filter_nil]
    simpa [Derivation.tree, run] using value.marks_tree
  | field name value =>
    rw [symbols, List.filter_cons_of_pos rfl, List.filter_cons_of_pos value.isMark_symbol,
      List.filter_nil]
    simpa [Derivation.tree, run, Query.marks] using value.marks_tree
  | group inside ih => simpa [Derivation.tree, run, symbols] using ih
  | unclosed inside ih => simpa [Derivation.tree, run, symbols] using ih
  | ofPrimary operand ih => simpa [Derivation.tree, run, symbols] using ih
  | not operand ih =>
    simpa [Derivation.tree, run, symbols, List.filter_cons, Query.marks] using ih
  | ofNegation first ih => simpa [Derivation.tree, run, symbols] using ih
  | and before next ihBefore ihNext =>
    rw [Derivation.tree, run, Run.marks_extend, ← Derivation.tree, ← Derivation.tree, ihBefore,
      ihNext]
    simp [symbols]
  | beside before next ihBefore ihNext =>
    rw [Derivation.tree, run, Run.marks_extend, ← Derivation.tree, ← Derivation.tree, ihBefore,
      ihNext]
    simp [symbols]
  | ofConjunction first ih => simpa [Derivation.tree, run, symbols] using ih
  | or before next ihBefore ihNext =>
    rw [Derivation.tree, run, Run.marks_extend, ← Derivation.tree, ← Derivation.tree, ihBefore,
      ihNext]
    simp [symbols]

/-! ## Whole queries -/

namespace Reader

/-- The run of the chain has the marks of the symbols that were read.  A closing parenthesis without
a group is among these, but it is no mark. -/
structure Marked (whole : List Symbol) (chain : Chain) (tokens : List Token) : Prop where
  exists_run : ∃ run before, chain.Holds run ∧ whole = before ++ tokens.map Token.symbol ∧
    run.tree.marks = before.filter Symbol.isMark

namespace Marked

variable {whole : List Symbol} {chain next : Chain} {tokens after : List Token}
  {noted noted' : List SyntaxError}

/-- A closing parenthesis without a group changes no mark. -/
theorem closing {place : Nat} (h : Marked whole chain (⟨.closing, place⟩ :: tokens)) :
    Marked whole chain tokens := by
  obtain ⟨run, before, hchain, rfl, hmarks⟩ := h.exists_run
  exact ⟨run, before ++ [.closing], hchain, by simp, by simp [hmarks]⟩

/-- An expression appends its marks to the run. -/
theorem operand {last levels position : Nat} {operand : Part} (h : Marked whole chain tokens)
    (hread : expression last levels tokens noted = .done operand after noted')
    (hpush : chain.push (Connective.implied operand.tree) operand position = .ok next) :
    Marked whole next after := by
  obtain ⟨run, before, hchain, rfl, hmarks⟩ := h.exists_run
  obtain ⟨derivation, hderivation, -⟩ := derived_expression hread
  rw [hderivation.part_eq] at hpush
  refine ⟨_, before ++ derivation.symbols, hchain.push hpush, ?_, ?_⟩
  · rw [hderivation.symbols_eq, List.append_assoc]
  · simp [Run.marks_extend, hmarks, derivation.marks_tree]

end Marked

/-- What is read has the marks of all tokens. -/
theorem marks_of_query {last : Nat} {tokens rest : List Token} {part : Part}
    {noted noted' : List SyntaxError} (h : query last tokens noted = .done part rest noted') :
    part.tree.marks = (tokens.map Token.symbol).filter Symbol.isMark := by
  rw [query] at h
  obtain ⟨first, after, noted₁, hfirst, h⟩ := Step.exists_of_bind h
  obtain ⟨derivation, hderivation, -⟩ := derived_expression hfirst
  have hstart : Marked (tokens.map Token.symbol) (.start first (positionAt last tokens)) after := by
    rw [hderivation.part_eq]
    exact ⟨_, derivation.symbols, Chain.holds_start _ _, hderivation.symbols_eq,
      by simp [derivation.marks_tree]⟩
  obtain ⟨chain, hend, hfinish⟩ := exists_of_queryFrom
    (fun chain tokens' _ => Marked (tokens.map Token.symbol) chain tokens')
    Marked.closing Marked.operand hstart (Nat.le_refl _) h
  obtain ⟨run, before, hchain, hwhole, hmarks⟩ := hend.exists_run
  obtain ⟨rfl, -⟩ := exists_of_finish hchain hfinish
  simp [hwhole, hmarks]

end Reader

/-- If nothing but parentheses without partners is wrong with a query, then the leaves of its tree
are the operands among its tokens, in their order and each of them once; its tree has one negation
for each *not* among its tokens, and one joint less than leaves. -/
theorem leaves_parse (raw : String) (h : ∀ fault ∈ (parse raw).errors, fault.isFatal = false) :
    (parse raw).tree.leaves = ((tokens raw).map Token.symbol).filter Symbol.isOperand ∧
      (parse raw).tree.negations = ((tokens raw).map Token.symbol).count .not ∧
      (parse raw).tree.joints + 1 = (parse raw).tree.size := by
  obtain ⟨part, rest, noted, hread, hparse⟩ := Reader.exists_readText_of_not_fatal h
  obtain ⟨last, hquery⟩ := Reader.exists_query_of_readText hread
  have hmarks := Reader.marks_of_query hquery
  rw [hparse]
  refine ⟨?_, ?_, (Reader.legible_of_readText hread).1.joints_add_one⟩
  · rw [← Query.filter_marks, hmarks, Symbol.filter_isOperand_filter_isMark]
  · rw [← Query.count_marks, hmarks, List.count_filter rfl]

/-- Operands of all kinds, in groups and out of them, around two stray parentheses. -/
theorem leaves_parse_kinds :
    (parse "a) tag:\"b c\" NOT (d* OR [1 TO 2] NOT e)) f").tree.leaves =
        [.term "a", .field "tag", .phrase "b c", .wildcard "d*", .range "1" "2", .term "e",
          .term "f"] ∧
      (parse "a) tag:\"b c\" NOT (d* OR [1 TO 2] NOT e)) f").tree.negations = 2 ∧
      (parse "a) tag:\"b c\" NOT (d* OR [1 TO 2] NOT e)) f").tree.joints = 5 := by
  obtain ⟨hleaves, hnegations, hjoints⟩ :=
    leaves_parse "a) tag:\"b c\" NOT (d* OR [1 TO 2] NOT e)) f" (by decide +kernel)
  refine ⟨?_, ?_, ?_⟩
  · rw [hleaves]
    decide +kernel
  · rw [hnegations]
    decide +kernel
  · apply Nat.succ.inj
    rw [Nat.succ_eq_add_one, hjoints]
    decide +kernel

end TextSearch
