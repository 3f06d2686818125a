import TextSearch.Proofs.Query.Acceptance
import TextSearch.Proofs.Query.Pasting
import TextSearch.Proofs.Search.Satisfaction

/-!
# Queries put together from groups

Two queries are put between parentheses and joined by a word.  The whole is read as the two trees
under the connective of the word, and finds what the connective makes of what the two queries find.
The limits leave room for this: a group is one level, a connective and a negation are one node each.

Main results:

- Theorem `Derivation.deepest_symbols`: how deeply groups nest can be counted along the symbols.
- Theorem `parse_of_joins`: two queries in groups are read as their trees under the joining word.
- Theorem `evaluate_parse_groups`: what two queries in groups are read as, and what they find.
-/

namespace TextSearch

/-! ## Nesting -/

namespace Symbol

/-- The number of open groups behind the symbol. -/
def levelBehind (level : Nat) : Symbol → Nat
  | opening => level + 1
  | closing => level - 1
  | _ => level

/-- The greatest number of groups that are open at once. -/
def deepest (level : Nat) : List Symbol → Nat
  | [] => level
  | symbol :: rest => max level (deepest (symbol.levelBehind level) rest)

/-- The greatest number of open groups is at least the number at the start. -/
theorem le_deepest (level : Nat) (symbols : List Symbol) : level ≤ deepest level symbols := by
  cases symbols with
  | nil => exact Nat.le_refl level
  | cons symbol rest => exact Nat.le_max_left _ _

/-- A symbol that is no parenthesis does not matter. -/
theorem deepest_cons {symbol : Symbol} {level : Nat} (h : symbol.levelBehind level = level)
    (rest : List Symbol) : deepest level (symbol :: rest) = deepest level rest := by
  rw [deepest, h]
  exact Nat.max_eq_right (le_deepest level rest)

/-- A leaf opens no group. -/
theorem deepest_leaf (leaf : Leaf) (level : Nat) (rest : List Symbol) :
    deepest level (leaf.symbol :: rest) = deepest level rest := by
  apply deepest_cons
  cases leaf <;> rfl

end Symbol

/-- How deeply the groups of a query nest. -/
def groupDepth (raw : String) : Nat :=
  Symbol.deepest 0 ((tokens raw).map Token.symbol)

namespace Derivation

/-- How deeply groups nest can be counted along the symbols. -/
theorem deepest_symbols {category : Category} (derivation : Derivation category)
    (h : derivation.unclosedGroups = 0) (level : Nat) (rest : List Symbol) :
    Symbol.deepest level (derivation.symbols ++ rest) =
      max (level + derivation.nesting) (Symbol.deepest level rest) := by
  induction derivation generalizing level rest with
  | leaf value =>
    have hrest := Symbol.le_deepest level rest
    rw [Derivation.symbols, List.singleton_append, Symbol.deepest_leaf, Derivation.nesting]
    omega
  | field name value =>
    have hrest := Symbol.le_deepest level rest
    rw [Derivation.symbols, List.cons_append, Symbol.deepest_cons rfl, List.singleton_append,
      Symbol.deepest_leaf, Derivation.nesting]
    omega
  | group inside ih =>
    rw [Derivation.symbols, List.cons_append, List.append_assoc, List.singleton_append,
      Symbol.deepest, Symbol.levelBehind, ih h, Symbol.deepest, Symbol.levelBehind,
      Nat.add_sub_cancel, Derivation.nesting]
    omega
  | unclosed inside ih => simp [Derivation.unclosedGroups] at h
  | ofPrimary operand ih => exact ih h level rest
  | not operand ih =>
    rw [Derivation.symbols, List.cons_append, Symbol.deepest_cons rfl]
    exact ih h level rest
  | ofNegation first ih => exact ih h level rest
  | and before next ihBefore ihNext =>
    rw [Derivation.unclosedGroups, Nat.add_eq_zero_iff] at h
    rw [Derivation.symbols, List.append_assoc, ihBefore h.1, List.cons_append,
      Symbol.deepest_cons rfl, ihNext h.2, Derivation.nesting]
    omega
  | beside before next ihBefore ihNext =>
    rw [Derivation.unclosedGroups, Nat.add_eq_zero_iff] at h
    rw [Derivation.symbols, List.append_assoc, ihBefore h.1, ihNext h.2, Derivation.nesting]
    omega
  | ofConjunction first ih => exact ih h level rest
  | or before next ihBefore ihNext =>
    rw [Derivation.unclosedGroups, Nat.add_eq_zero_iff] at h
    rw [Derivation.symbols, List.append_assoc, ihBefore h.1, List.cons_append,
      Symbol.deepest_cons rfl, ihNext h.2, Derivation.nesting]
    omega

/-- The groups of a sentence nest as deeply as its derivation says. -/
theorem Derives.groupDepth_eq {derivation : Derivation .disjunction} {raw : String}
    (h : derivation.Derives ((tokens raw).map Token.symbol)) :
    groupDepth raw = derivation.nesting := by
  have hdeepest := derivation.deepest_symbols h.closed 0 []
  rw [List.append_nil, h.symbols_eq] at hdeepest
  rw [groupDepth, hdeepest, Symbol.deepest]
  omega

end Derivation

/-! ## Joined groups -/

/-- A query that can stand in a group of another one: nothing is wrong with it, it does not leave a
phrase open, and it leaves room for two more nodes above its tree and one more group around it. -/
structure Enclosable (raw : String) : Prop where
  errors_eq_nil : (parse raw).errors = []
  not_open : endsInOpenPhrase raw = false
  height_le : (parse raw).tree.height ≤ 62
  groupDepth_le : groupDepth raw ≤ 63

/-- Two operands under a connective are one node. -/
theorem Run.tree_extend_single (left right : Query) (connective : Connective) :
    ((Run.single left).extend connective right).tree = connective.join left right := by
  rw [Run.extend_of_all rfl, Run.tree, Run.operands]
  simp [Run.single, Connective.balance]

/-- What a word between two groups makes of them. -/
inductive Joint where
  | and
  | or
  | butNot

namespace Joint

/-- The word between the groups. -/
def word : Joint → List Char
  | and => ['A', 'N', 'D']
  | or => ['O', 'R']
  | butNot => ['N', 'O', 'T']

/-- The symbol of the word. -/
def symbol : Joint → Symbol
  | and => .and
  | or => .or
  | butNot => .not

/-- The tree over the trees of the groups. -/
def tree (left right : Query) : Joint → Query
  | and => .and left right
  | or => .or left right
  | butNot => .and left (.not right)

/-- The derivation from the derivations of what is in the groups. -/
def derivation (left right : Derivation .disjunction) : Joint → Derivation .disjunction
  | and =>
    .ofConjunction (.and (.ofNegation (.ofPrimary (.group left))) (.ofPrimary (.group right)))
  | or =>
    .or (.ofConjunction (.ofNegation (.ofPrimary (.group left))))
      (.ofNegation (.ofPrimary (.group right)))
  | butNot =>
    .ofConjunction (.beside (.ofNegation (.ofPrimary (.group left))) (.not (.group right)))

/-- A range cannot go on over the word, which is scanned as its symbol. -/
theorem closesGroup (joint : Joint) (rest : List Char) :
    Symbol.ClosesGroup (')' :: ' ' :: (joint.word ++ ' ' :: rest)) := by
  have hblank : ∀ c ∈ joint.word, Text.isBlank c = false := by
    have hall : joint.word.all (fun c => !Text.isBlank c) = true := by
      cases joint <;> decide
    simpa using hall
  apply Symbol.ClosesGroup.before rest _ hblank <;> cases joint <;> decide

/-- A joint between blanks is scanned as its symbol. -/
theorem scan_word (joint : Joint) (rest : List Char) :
    Symbol.scan (' ' :: (joint.word ++ ' ' :: rest)) = joint.symbol :: Symbol.scan rest := by
  cases joint with
  | and => exact Symbol.scan_connective .and rest
  | or => exact Symbol.scan_connective .or rest
  | butNot =>
    rw [Symbol.scan_cons_of_blank (by decide)]
    exact Symbol.scan_not rest

section Derivations

variable (left right : Derivation .disjunction) (joint : Joint)

/-- The derivation of two joined groups has the symbols of both in parentheses. -/
theorem symbols_derivation :
    (joint.derivation left right).symbols =
      .opening :: (left.symbols ++ .closing :: joint.symbol ::
        .opening :: (right.symbols ++ [.closing])) := by
  cases joint <;> simp [derivation, Derivation.symbols, symbol]

theorem unclosedGroups_derivation :
    (joint.derivation left right).unclosedGroups = left.unclosedGroups + right.unclosedGroups := by
  cases joint <;> rfl

/-- Joining two groups nests one level deeper than the deeper one. -/
theorem nesting_derivation :
    (joint.derivation left right).nesting = max left.nesting right.nesting + 1 := by
  cases joint <;> simp only [derivation, Derivation.nesting] <;> omega

theorem tree_derivation :
    (joint.derivation left right).tree = joint.tree left.tree right.tree := by
  cases joint <;>
    simp [derivation, Derivation.tree, Derivation.run, Run.tree_extend_single, tree,
      Connective.join, Connective.implied]

end Derivations

/-- The joined tree has at most two more levels than the trees in the groups. -/
theorem height_tree_le (joint : Joint) (left right : Query) :
    (joint.tree left right).height ≤ max left.height right.height + 2 := by
  cases joint <;> simp only [tree, Query.height] <;> omega

end Joint

/-! ## Texts of joined groups -/

/-- The symbols of two groups with a word between them. -/
theorem map_symbol_tokens_of_joins {a b raw : String} (ha : endsInOpenPhrase a = false)
    (hb : endsInOpenPhrase b = false) (joint : Joint)
    (hraw : raw.toList = '(' :: (a.toList ++ ')' :: ' ' :: (joint.word ++ ' ' ::
      '(' :: (b.toList ++ [')'])))) :
    (tokens raw).map Token.symbol =
      .opening :: ((tokens a).map Token.symbol ++ .closing :: joint.symbol ::
        .opening :: ((tokens b).map Token.symbol ++ [.closing])) := by
  rw [map_symbol_tokens, hraw, Symbol.scan_opening,
    Symbol.scan_append_of_closesGroup ha (joint.closesGroup _), Symbol.scan_closing,
    joint.scan_word, Symbol.scan_opening, Symbol.scan_append_of_closesGroup hb .last,
    Symbol.scan_closing, Symbol.scan_nil]

/-- Two queries in groups are read as their trees under the joining word. -/
theorem parse_of_joins {a b raw : String} (ha : Enclosable a) (hb : Enclosable b) (joint : Joint)
    (hraw : raw.toList = '(' :: (a.toList ++ ')' :: ' ' :: (joint.word ++ ' ' ::
      '(' :: (b.toList ++ [')'])))) :
    parse raw = ⟨joint.tree (parse a).tree (parse b).tree, []⟩ := by
  obtain ⟨left, hleft, -, -, hleftTree⟩ := exists_derives_of_errors_eq_nil ha.errors_eq_nil
  obtain ⟨right, hright, -, -, hrightTree⟩ := exists_derives_of_errors_eq_nil hb.errors_eq_nil
  have hderives : (joint.derivation left right).Derives ((tokens raw).map Token.symbol) := by
    constructor
    · rw [map_symbol_tokens_of_joins ha.not_open hb.not_open joint hraw,
        joint.symbols_derivation, hleft.symbols_eq, hright.symbols_eq]
    · rw [joint.unclosedGroups_derivation, hleft.closed, hright.closed]
  have hnesting : (joint.derivation left right).nesting ≤ heightLimit := by
    have hleftDepth := ha.groupDepth_le
    have hrightDepth := hb.groupDepth_le
    rw [hleft.groupDepth_eq] at hleftDepth
    rw [hright.groupDepth_eq] at hrightDepth
    rw [joint.nesting_derivation, heightLimit]
    omega
  have hheight : (joint.derivation left right).tree.height ≤ heightLimit := by
    have hle := joint.height_tree_le left.tree right.tree
    have hleftHeight := ha.height_le
    have hrightHeight := hb.height_le
    rw [hleftTree] at hleftHeight
    rw [hrightTree] at hrightHeight
    rw [joint.tree_derivation, heightLimit]
    omega
  rw [parse_of_derives hderives hnesting hheight, joint.tree_derivation, hleftTree, hrightTree]

/-- A conjunction finds what both of its operands find. -/
theorem Index.evaluate_and (index : Index) (left right : Query) :
    index.evaluate (.and left right) = (index.evaluate left).inter (index.evaluate right) := by
  apply SlotSet.ext
  intro slot
  rw [Index.mem_evaluate_and, SlotSet.mem_inter]

/-- Two queries in groups with a word between them are read as their trees under this word, and
find what both find, what either finds, or what the first finds of the documents that the second
does not find. -/
theorem evaluate_parse_groups {a b : String} (ha : Enclosable a) (hb : Enclosable b) :
    (parse ("(" ++ a ++ ") AND (" ++ b ++ ")") = ⟨.and (parse a).tree (parse b).tree, []⟩ ∧
      parse ("(" ++ a ++ ") OR (" ++ b ++ ")") = ⟨.or (parse a).tree (parse b).tree, []⟩ ∧
      parse ("(" ++ a ++ ") NOT (" ++ b ++ ")") =
        ⟨.and (parse a).tree (.not (parse b).tree), []⟩) ∧
    ∀ index : Index,
      index.evaluate (parse ("(" ++ a ++ ") AND (" ++ b ++ ")")).tree =
        (index.evaluate (parse a).tree).inter (index.evaluate (parse b).tree) ∧
      index.evaluate (parse ("(" ++ a ++ ") OR (" ++ b ++ ")")).tree =
        (index.evaluate (parse a).tree).union (index.evaluate (parse b).tree) ∧
      index.evaluate (parse ("(" ++ a ++ ") NOT (" ++ b ++ ")")).tree =
        (index.evaluate (parse a).tree).inter
          (index.allSlots.diff (index.evaluate (parse b).tree)) := by
  have hand : parse ("(" ++ a ++ ") AND (" ++ b ++ ")") =
      ⟨.and (parse a).tree (parse b).tree, []⟩ :=
    parse_of_joins ha hb .and (by simp [Joint.word])
  have hor : parse ("(" ++ a ++ ") OR (" ++ b ++ ")") =
      ⟨.or (parse a).tree (parse b).tree, []⟩ :=
    parse_of_joins ha hb .or (by simp [Joint.word])
  have hnot : parse ("(" ++ a ++ ") NOT (" ++ b ++ ")") =
      ⟨.and (parse a).tree (.not (parse b).tree), []⟩ :=
    parse_of_joins ha hb .butNot (by simp [Joint.word])
  refine ⟨⟨hand, hor, hnot⟩, ?_⟩
  intro index
  rw [hand, hor, hnot]
  refine ⟨index.evaluate_and _ _, rfl, ?_⟩
  rw [index.evaluate_and]
  rfl

/-- A bracket that could open a range, and a closing one that could end it, stay in their groups. -/
theorem evaluate_parse_groups_brackets :
    Enclosable "[low TO" ∧ Enclosable "high] \"(\" [(1 TO 2)]" ∧
      parse ("(" ++ "[low TO" ++ ") NOT (" ++ "high] \"(\" [(1 TO 2)]" ++ ")") =
        ⟨.and (.or (.term "[low") (.term "TO"))
          (.not (.or (.or (.term "high]") (.phrase "(")) (.range "(1" "2)"))), []⟩ := by
  have ha : Enclosable "[low TO" :=
    ⟨by decide +kernel, by decide +kernel, by decide +kernel, by decide +kernel⟩
  have hb : Enclosable "high] \"(\" [(1 TO 2)]" :=
    ⟨by decide +kernel, by decide +kernel, by decide +kernel, by decide +kernel⟩
  have hleft : (parse "[low TO").tree = .or (.term "[low") (.term "TO") := by
    decide +kernel
  have hright : (parse "high] \"(\" [(1 TO 2)]").tree =
      .or (.or (.term "high]") (.phrase "(")) (.range "(1" "2)") := by
    decide +kernel
  refine ⟨ha, hb, ?_⟩
  rw [(evaluate_parse_groups ha hb).1.2.2, hleft, hright]

end TextSearch
