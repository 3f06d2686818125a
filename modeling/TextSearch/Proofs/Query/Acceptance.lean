import TextSearch.Proofs.Query.Deriving
import TextSearch.Proofs.Query.Rereading

/-!
# Everything that is derived is read

The symbols of a derivation without missing parentheses are read as its tree, whatever stands behind
them, as long as the limits allow it.  The reader never looks at the height of a run that still
grows: a balanced tree can become lower when an operand is added.  So what has to be low are the
operands of the outermost run (`Run.IsLow`), and this is what the induction carries.

Main results:

- Theorem `isRead_of_isLow`: every derivation is read, category by category.
- Theorem `parse_of_derives`: a sentence within the limits is read as its tree, and nothing is wrong
  with it.
- Theorem `errors_eq_nil_iff_derives`: nothing is wrong with a query exactly when its symbols are a
  sentence of the grammar within the limits.
-/

namespace TextSearch
namespace Derivation

/-- The symbols of the derivation are read as its tree, whatever stands behind them; a conjunction
or a disjunction is read up to the loop that looks for further operands. -/
def IsRead {category : Category} (derivation : Derivation category) (last levels : Nat) : Prop :=
  ∀ (ts rest : List Token) (noted : List SyntaxError),
    ts.map Token.symbol = derivation.symbols →
    match category with
    | .primary =>
      Reader.primary (Reader.groups last levels) (ts ++ rest) noted =
        .done (.ofTree derivation.tree) rest noted
    | .negation =>
      Reader.negation (Reader.groups last levels) (ts ++ rest) noted =
        .done (.ofTree derivation.tree) rest noted
    | .conjunction =>
      ∃ rounds chain, rest.length ≤ rounds.length ∧ Chain.Holds chain derivation.run ∧
        Reader.conjunction (Reader.groups last levels) last (ts ++ rest) noted =
          Reader.conjunctionFrom (Reader.groups last levels) last rounds chain rest noted
    | .disjunction =>
      Reader.EndsConjunction rest →
      ∃ rounds chain, rest.length ≤ rounds.length ∧ Chain.Holds chain derivation.run ∧
        Reader.disjunction (Reader.groups last levels) last (ts ++ rest) noted =
          Reader.disjunctionFrom (Reader.groups last levels) last rounds chain rest noted

variable {last levels : Nat}

/-! ## Operands -/

/-- The symbol of a leaf is read as the leaf. -/
theorem isRead_leaf (value : Leaf) : (leaf value).IsRead last levels := by
  intro ts rest noted hts
  rcases Reader.map_symbol_eq_cons hts with ⟨position, others, rfl, hothers⟩
  rw [List.map_eq_nil_iff.mp hothers, List.cons_append, List.nil_append]
  dsimp only
  rw [Reader.primary_of_leaf value.leaf?_symbol]
  simp [Derivation.tree, Derivation.run, Part.ofTree]

/-- A field with its value is read as the tree of the two. -/
theorem isRead_field (name : String) (value : Leaf) : (field name value).IsRead last levels := by
  intro ts rest noted hts
  rcases Reader.map_symbol_eq_cons hts with ⟨position, others, rfl, hothers⟩
  rcases Reader.map_symbol_eq_cons hothers with ⟨place, nothing, rfl, hnothing⟩
  rw [List.map_eq_nil_iff.mp hnothing]
  simp [Reader.primary, Reader.fieldValue, value.leaf?_symbol, Derivation.tree, Derivation.run,
    Part.ofTree, Query.height]

/-- A disjunction with nothing behind it is read as its tree. -/
theorem disjunction_of_isRead {derivation : Derivation .disjunction}
    (h : derivation.IsRead last levels) (hheight : derivation.tree.height ≤ heightLimit)
    {ts rest : List Token} (noted : List SyntaxError)
    (hts : ts.map Token.symbol = derivation.symbols) (hrest : Reader.EndsDisjunction rest) :
    Reader.disjunction (Reader.groups last levels) last (ts ++ rest) noted =
      .done (.ofTree derivation.tree) rest noted := by
  obtain ⟨rounds, chain, -, hchain, hread⟩ := h ts rest noted hts hrest.endsConjunction
  have hlow : ¬ derivation.run.tree.height > heightLimit := Nat.not_lt.mpr hheight
  rw [hread, Reader.disjunctionFrom_of_ends hrest, Reader.finish, hchain.collapse, if_neg hlow]
  rfl

/-- A conjunction with no further operands behind it is read as its tree. -/
theorem conjunction_of_isRead {derivation : Derivation .conjunction}
    (h : derivation.IsRead last levels) (hheight : derivation.tree.height ≤ heightLimit)
    {ts rest : List Token} (noted : List SyntaxError)
    (hts : ts.map Token.symbol = derivation.symbols) (hrest : Reader.EndsConjunction rest) :
    Reader.conjunction (Reader.groups last levels) last (ts ++ rest) noted =
      .done (.ofTree derivation.tree) rest noted := by
  obtain ⟨rounds, chain, -, hchain, hread⟩ := h ts rest noted hts
  have hlow : ¬ derivation.run.tree.height > heightLimit := Nat.not_lt.mpr hheight
  rw [hread, Reader.conjunctionFrom_of_ends hrest, Reader.finish, hchain.collapse, if_neg hlow]
  rfl

/-- What is read as an expression is read in parentheses too, with one level more. -/
theorem isRead_group {inside : Derivation .disjunction} (h : inside.IsRead last levels)
    (hheight : inside.tree.height ≤ heightLimit) :
    (group inside).IsRead last (levels + 1) := by
  intro ts rest noted hts
  rcases Reader.map_symbol_eq_cons hts with ⟨opened, others, rfl, hothers⟩
  rcases List.map_eq_append_iff.mp hothers with ⟨ins, ends, rfl, hins, hends⟩
  rcases Reader.map_symbol_eq_cons hends with ⟨closed, nothing, rfl, hnothing⟩
  have hread := disjunction_of_isRead h hheight noted hins
    (Reader.endsDisjunction_closing closed rest)
  have htree : (group inside).tree = inside.tree := by
    simp [Derivation.tree, Derivation.run]
  dsimp only
  rw [List.map_eq_nil_iff.mp hnothing, htree, List.cons_append, List.append_assoc,
    List.singleton_append, Reader.primary, Reader.groups, Reader.expression_eq]
  exact Reader.inGroup_of_done hread

/-- A primary is read as a negation without *not*. -/
theorem isRead_ofPrimary {operand : Derivation .primary} (h : operand.IsRead last levels) :
    (ofPrimary operand).IsRead last levels := by
  intro ts rest noted hts
  have hread := h ts rest noted hts
  obtain ⟨symbol, others, hsymbols, -, hnot⟩ := operand.exists_symbols_primary
  have htree : (ofPrimary operand).tree = operand.tree := by
    simp [Derivation.tree, Derivation.run]
  rw [Derivation.symbols, hsymbols] at hts
  rcases Reader.map_symbol_eq_cons hts with ⟨position, behind, rfl, -⟩
  dsimp only at hread ⊢
  rw [htree, ← hread]
  exact Reader.negation_of_ne_not hnot position _ noted

/-- A primary behind *not* is read as its negation, if that is within the height. -/
theorem isRead_not {operand : Derivation .primary} (h : operand.IsRead last levels)
    (hheight : (not operand).tree.height ≤ heightLimit) : (not operand).IsRead last levels := by
  intro ts rest noted hts
  rcases Reader.map_symbol_eq_cons hts with ⟨position, others, rfl, hothers⟩
  have hread := h others rest noted hothers
  have htree : (not operand).tree = .not operand.tree := by
    simp [Derivation.tree, Derivation.run]
  rw [htree, Query.height] at hheight
  have hlow : ¬ (Part.ofTree operand.tree).height ≥ heightLimit := by
    rw [Part.height_ofTree]
    omega
  dsimp only at hread ⊢
  rw [htree, List.cons_append, Reader.negation, hread]
  dsimp only
  rw [if_neg hlow]
  rfl

/-! ## Loops over operands -/

/-- A conjunction begins with its first operand. -/
theorem isRead_ofNegation {first : Derivation .negation} (h : first.IsRead last levels) :
    (ofNegation first).IsRead last levels := by
  intro ts rest noted hts
  have hread := h ts rest noted hts
  dsimp only at hread ⊢
  refine ⟨rest, _, Nat.le_refl _,
    Chain.holds_start first.tree (Reader.positionAt last (ts ++ rest)), ?_⟩
  rw [Reader.conjunction, hread]

/-- A conjunction is read on behind *and*, as long as its operands are low. -/
theorem isRead_and {before : Derivation .conjunction} {next : Derivation .negation}
    (hbefore : before.IsRead last levels) (hnext : next.IsRead last levels)
    (hlow : (and before next).run.IsLow) : (and before next).IsRead last levels := by
  intro ts rest noted hts
  rcases List.map_eq_append_iff.mp hts with ⟨befores, others, rfl, hbefores, hothers⟩
  rcases Reader.map_symbol_eq_cons hothers with ⟨position, nexts, rfl, hnexts⟩
  have hnextRead := hnext nexts rest noted hnexts
  obtain ⟨rounds, chain, hrounds, hchain, hread⟩ :=
    hbefore befores (⟨.and, position⟩ :: (nexts ++ rest)) noted hbefores
  obtain ⟨chain', hpush, hchain'⟩ :=
    hchain.exists_push hlow (Reader.positionAt last (nexts ++ rest))
  cases rounds with
  | nil => simp at hrounds
  | cons round rounds =>
    refine ⟨rounds, chain', ?_, hchain', ?_⟩
    · simp only [List.length_cons, List.length_append] at hrounds
      omega
    · dsimp only at hnextRead
      rw [List.append_assoc, List.cons_append, hread, Reader.conjunctionFrom, if_pos rfl,
        hnextRead]
      dsimp only
      rw [← Derivation.tree] at hpush
      rw [hpush]

/-- A conjunction is read on with an operand right beside it, as long as its operands are low. -/
theorem isRead_beside {before : Derivation .conjunction} {next : Derivation .negation}
    (hbefore : before.IsRead last levels) (hnext : next.IsRead last levels)
    (hlow : (beside before next).run.IsLow) : (beside before next).IsRead last levels := by
  intro ts rest noted hts
  rcases List.map_eq_append_iff.mp hts with ⟨befores, nexts, rfl, hbefores, hnexts⟩
  have hnextRead := hnext nexts rest noted hnexts
  obtain ⟨symbol, others, hsymbols, hstarts⟩ := next.exists_symbols
  rw [hsymbols] at hnexts
  rcases Reader.map_symbol_eq_cons hnexts with ⟨position, behind, rfl, -⟩
  obtain ⟨rounds, chain, hrounds, hchain, hread⟩ :=
    hbefore befores (⟨symbol, position⟩ :: behind ++ rest) noted hbefores
  obtain ⟨chain', hpush, hchain'⟩ := hchain.exists_push hlow position
  have hand : symbol ≠ .and := by
    rintro rfl
    contradiction
  cases rounds with
  | nil => simp at hrounds
  | cons round rounds =>
    refine ⟨rounds, chain', ?_, hchain', ?_⟩
    · simp only [List.length_cons, List.length_append] at hrounds
      omega
    · dsimp only at hnextRead
      rw [List.append_assoc, hread, List.cons_append, Reader.conjunctionFrom, if_neg hand,
        if_pos hstarts, ← List.cons_append, hnextRead]
      dsimp only
      rw [← Derivation.tree] at hpush
      rw [Part.tree_ofTree, hpush]

/-- A disjunction begins with its first conjunction, if that is within the height. -/
theorem isRead_ofConjunction {first : Derivation .conjunction} (h : first.IsRead last levels)
    (hheight : first.tree.height ≤ heightLimit) : (ofConjunction first).IsRead last levels := by
  intro ts rest noted hts hrest
  have hread := conjunction_of_isRead h hheight noted hts hrest
  refine ⟨rest, _, Nat.le_refl _,
    Chain.holds_start first.tree (Reader.positionAt last (ts ++ rest)), ?_⟩
  rw [Reader.disjunction, hread]

/-- A disjunction is read on behind *or*, as long as its operands are low. -/
theorem isRead_or {before : Derivation .disjunction} {next : Derivation .conjunction}
    (hbefore : before.IsRead last levels) (hnext : next.IsRead last levels)
    (hlow : (or before next).run.IsLow) (hheight : next.tree.height ≤ heightLimit) :
    (or before next).IsRead last levels := by
  intro ts rest noted hts hrest
  rcases List.map_eq_append_iff.mp hts with ⟨befores, others, rfl, hbefores, hothers⟩
  rcases Reader.map_symbol_eq_cons hothers with ⟨position, nexts, rfl, hnexts⟩
  have hnextRead := conjunction_of_isRead hnext hheight noted hnexts hrest
  obtain ⟨rounds, chain, hrounds, hchain, hread⟩ :=
    hbefore befores (⟨.or, position⟩ :: (nexts ++ rest)) noted hbefores
      (Reader.endsConjunction_or position _)
  obtain ⟨chain', hpush, hchain'⟩ :=
    hchain.exists_push hlow (Reader.positionAt last (nexts ++ rest))
  cases rounds with
  | nil => simp at hrounds
  | cons round rounds =>
    refine ⟨rounds, chain', ?_, hchain', ?_⟩
    · simp only [List.length_cons, List.length_append] at hrounds
      omega
    · rw [List.append_assoc, List.cons_append, hread, Reader.disjunctionFrom, if_pos rfl,
        hnextRead]
      dsimp only
      rw [← Derivation.tree] at hpush
      rw [hpush]

/-! ## All derivations -/

/-- Every derivation without missing parentheses is read, as long as its groups nest within the
levels and no operand of its outermost run is too high. -/
theorem isRead_of_isLow {category : Category} (derivation : Derivation category)
    (hclosed : derivation.unclosedGroups = 0) (hnesting : derivation.nesting ≤ levels)
    (hlow : derivation.run.IsLow) : derivation.IsRead last levels := by
  have hsingle : ∀ {tree : Query}, (Run.single tree).IsLow → tree.height ≤ heightLimit := by
    intro tree h
    exact h tree (by simp)
  induction derivation generalizing levels with
  | leaf value => exact isRead_leaf value
  | field name value => exact isRead_field name value
  | group inside ih =>
    have hheight := hsingle hlow
    rw [Derivation.nesting] at hnesting
    obtain ⟨inner, rfl⟩ : ∃ inner, levels = inner + 1 := ⟨levels - 1, by omega⟩
    have hinside := ih hclosed (by omega : inside.nesting ≤ inner) (Run.isLow_of_tree hheight)
    exact isRead_group hinside hheight
  | unclosed inside ih => simp [Derivation.unclosedGroups] at hclosed
  | ofPrimary operand ih =>
    exact isRead_ofPrimary (ih hclosed hnesting (Run.isLow_of_tree (hsingle hlow)))
  | not operand ih =>
    have hheight := hsingle hlow
    have hoperand : operand.run.tree.height ≤ heightLimit := by
      rw [Query.height] at hheight
      omega
    refine isRead_not (ih hclosed hnesting (Run.isLow_of_tree hoperand)) ?_
    simpa [Derivation.tree, Derivation.run] using hheight
  | ofNegation first ih =>
    exact isRead_ofNegation (ih hclosed hnesting (Run.isLow_of_tree (hsingle hlow)))
  | and before next ihBefore ihNext =>
    have hparts := Run.isLow_of_extend hlow
    rw [Derivation.unclosedGroups] at hclosed
    rw [Derivation.nesting] at hnesting
    refine isRead_and (ihBefore ?_ ?_ hparts.1)
      (ihNext ?_ ?_ (Run.isLow_of_tree hparts.2.1)) hlow <;> omega
  | beside before next ihBefore ihNext =>
    have hparts := Run.isLow_of_extend hlow
    rw [Derivation.unclosedGroups] at hclosed
    rw [Derivation.nesting] at hnesting
    refine isRead_beside (ihBefore ?_ ?_ hparts.1)
      (ihNext ?_ ?_ (Run.isLow_of_tree hparts.2.1)) hlow <;> omega
  | ofConjunction first ih =>
    have hheight := hsingle hlow
    exact isRead_ofConjunction (ih hclosed hnesting (Run.isLow_of_tree hheight)) hheight
  | or before next ihBefore ihNext =>
    have hparts := Run.isLow_of_extend hlow
    rw [Derivation.unclosedGroups] at hclosed
    rw [Derivation.nesting] at hnesting
    refine isRead_or (ihBefore ?_ ?_ hparts.1)
      (ihNext ?_ ?_ (Run.isLow_of_tree hparts.2.1)) hlow hparts.2.1 <;> omega

end Derivation

/-! ## Whole queries -/

/-- A sentence within the limits is read as its tree, and nothing is wrong with it. -/
theorem parse_of_derives {raw : String} {derivation : Derivation .disjunction}
    (h : derivation.Derives ((tokens raw).map Token.symbol))
    (hnesting : derivation.nesting ≤ heightLimit)
    (hheight : derivation.tree.height ≤ heightLimit) :
    parse raw = ⟨derivation.tree, []⟩ := by
  rw [parse]
  cases hlast : (tokens raw).getLast? with
  | none =>
    have hnil := List.getLast?_eq_none_iff.mp hlast
    have hsymbols := h.symbols_eq
    rw [hnil] at hsymbols
    exact absurd hsymbols derivation.symbols_ne_nil
  | some last =>
    have hread : derivation.IsRead last.position heightLimit :=
      derivation.isRead_of_isLow h.closed hnesting (Run.isLow_of_tree hheight)
    have hends : Reader.EndsDisjunction [] := by
      simp [Reader.EndsDisjunction]
    have hdisjunction :=
      Derivation.disjunction_of_isRead hread hheight [] h.symbols_eq.symm hends
    rw [List.append_nil, ← Reader.expression_eq] at hdisjunction
    dsimp only
    rw [Reader.query, hdisjunction]
    dsimp only
    rw [Reader.queryFrom, Reader.finish_start hheight]
    rfl

/-- Nothing is wrong with a query exactly when its symbols are a sentence of the grammar whose
groups nest within the limit and whose tree is not higher than the limit. -/
theorem errors_eq_nil_iff_derives (raw : String) :
    (parse raw).errors = [] ↔
      ∃ derivation : Derivation .disjunction,
        derivation.Derives ((tokens raw).map Token.symbol) ∧
          derivation.nesting ≤ heightLimit ∧ derivation.tree.height ≤ heightLimit := by
  constructor
  · intro h
    obtain ⟨derivation, hderives, hnesting, hheight, -⟩ := exists_derives_of_errors_eq_nil h
    exact ⟨derivation, hderives, hnesting, hheight⟩
  · rintro ⟨derivation, hderives, hnesting, hheight⟩
    rw [parse_of_derives hderives hnesting hheight]

end TextSearch
