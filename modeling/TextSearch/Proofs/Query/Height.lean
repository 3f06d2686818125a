import TextSearch.Proofs.Query.Reading
import TextSearch.Search.Evaluation

/-!
# Heights of query trees

The reader records a height with every part that it builds, and looks at the recorded heights alone
when it checks the limit.  The recorded height is always the height of the tree, so no tree of a
query is higher than the limit, and nothing that goes down a tree goes down more levels than that.

Going down a limited number of levels is written out for evaluation and for canonical texts: the
functions with a limit give nothing where a further level would be needed.

Main results:

- Theorem `Built.height_eq`: every part that the reader builds carries the height of its tree.
- Theorem `height_parse_le`: the tree of a query is not higher than the limit.
- Theorem `Index.evaluateWithin_of_height_le` and `Query.canonicalWithin_of_height_le`: as many
  levels as a tree is high suffice.
- Theorem `parse_bounded`: all of this of every query.
-/

namespace TextSearch

/-! ## Recorded heights -/

namespace Reader

/-- The parts that the reader builds, whatever the tokens are: those that its functions give back,
and those that stand for runs of such parts, be it whole runs or the halves that a balanced tree is
made of. -/
inductive Built (last : Nat) : Part → Prop
  | fieldValue {name : String} {position : Nat} {tokens rest : List Token}
    {noted noted' : List SyntaxError} {part : Part} :
    fieldValue name position tokens noted = .done part rest noted' → Built last part
  | primary {levels : Nat} {tokens rest : List Token} {noted noted' : List SyntaxError}
    {part : Part} :
    primary (groups last levels) tokens noted = .done part rest noted' → Built last part
  | negation {levels : Nat} {tokens rest : List Token} {noted noted' : List SyntaxError}
    {part : Part} :
    negation (groups last levels) tokens noted = .done part rest noted' → Built last part
  | conjunction {levels : Nat} {tokens rest : List Token} {noted noted' : List SyntaxError}
    {part : Part} :
    conjunction (groups last levels) last tokens noted = .done part rest noted' → Built last part
  | expression {levels : Nat} {tokens rest : List Token} {noted noted' : List SyntaxError}
    {part : Part} :
    expression last levels tokens noted = .done part rest noted' → Built last part
  | query {tokens rest : List Token} {noted noted' : List SyntaxError} {part : Part} :
    query last tokens noted = .done part rest noted' → Built last part
  | run {connective : Connective} {operands : List Part} {part : Part} :
    (∀ operand ∈ operands, Built last operand) → balanced connective operands = some part →
    Built last part

/-- At every level, what an opening parenthesis leads to has derivations. -/
theorem derivedGroups_groups (last levels : Nat) : DerivedGroups levels (groups last levels) := by
  cases levels with
  | zero =>
    intro position tokens noted part rest noted' hfailed
    contradiction
  | succ levels => exact derived_inGroup derived_expression

/-- A part that is explained by a derivation carries the height of its tree. -/
theorem Explained.height_eq {category : Category} {levels faults : Nat} {symbols : List Symbol}
    {derivation : Derivation category} {part : Part} {rest : List Token}
    {noted : List SyntaxError}
    (h : Explained levels symbols faults derivation part rest noted) :
    part.height = part.tree.height := by
  rw [h.part_eq]
  rfl

/-- The chain of a whole query holds a run at every moment, so its end carries the height of its
tree. -/
theorem height_eq_of_query {last : Nat} {tokens rest : List Token}
    {noted noted' : List SyntaxError} {part : Part}
    (h : query last tokens noted = .done part rest noted') : part.height = part.tree.height := by
  rw [query] at h
  obtain ⟨first, after, noted₁, hfirst, h⟩ := Step.exists_of_bind h
  obtain ⟨derivation, hderivation, -⟩ := derived_expression hfirst
  have hstart : ∃ run, (Chain.start first (positionAt last tokens)).Holds run := by
    rw [hderivation.part_eq]
    exact ⟨_, Chain.holds_start _ _⟩
  have hnext : ∀ {chain next operand position tokens after noted noted'},
      (∃ run, Chain.Holds chain run) →
      expression last heightLimit tokens noted = .done operand after noted' →
      chain.push (Connective.implied operand.tree) operand position = .ok next →
      ∃ run, Chain.Holds next run := by
    rintro chain next operand position tokens after noted noted' ⟨run, hrun⟩ hoperand hpush
    obtain ⟨derivation, hderivation, -⟩ := derived_expression hoperand
    rw [hderivation.part_eq] at hpush
    exact ⟨_, hrun.push hpush⟩
  obtain ⟨whole, ⟨run, hrun⟩, hend⟩ := exists_of_queryFrom
    (fun chain _ _ => ∃ run, chain.Holds run) id hnext hstart (Nat.le_refl _) h
  rw [(exists_of_finish hrun hend).1, Part.tree_ofTree, Part.height_ofTree]

/-- The balanced tree over parts that carry the heights of their trees carries its own. -/
theorem height_eq_of_balanced {connective : Connective} {operands : List Part} {part : Part}
    (hoperands : ∀ operand ∈ operands, operand.height = operand.tree.height)
    (h : balanced connective operands = some part) : part.height = part.tree.height := by
  have hmap : (operands.map Part.tree).map Part.ofTree = operands := by
    rw [List.map_map]
    refine (List.map_congr_left fun operand hmem => ?_).trans (List.map_id operands)
    rw [Function.comp_apply, Part.ofTree, ← hoperands operand hmem]
    rfl
  have hne : operands.map Part.tree ≠ [] := by
    rintro hnil
    rw [List.map_eq_nil_iff] at hnil
    rw [hnil, balanced] at h
    contradiction
  rw [← hmap, balanced_map_ofTree connective hne] at h
  rw [← Option.some.inj h, Part.height_ofTree, Part.tree_ofTree]

/-- Every part that the reader builds carries the height of its tree. -/
theorem Built.height_eq {last : Nat} {part : Part} (h : Built last part) :
    part.height = part.tree.height := by
  induction h with
  | fieldValue h =>
    obtain ⟨derivation, hderivation⟩ : ∃ derivation, Explained 0 _ _ derivation _ _ _ :=
      derived_fieldValue h
    exact hderivation.height_eq
  | primary h =>
    obtain ⟨derivation, hderivation⟩ := derived_primary (derivedGroups_groups last _) h
    exact hderivation.height_eq
  | negation h =>
    obtain ⟨derivation, hderivation⟩ := derived_negation (derivedGroups_groups last _) h
    exact hderivation.height_eq
  | conjunction h =>
    obtain ⟨derivation, hderivation, -⟩ := derived_conjunction (derivedGroups_groups last _) h
    exact hderivation.height_eq
  | expression h =>
    obtain ⟨derivation, hderivation, -⟩ := derived_expression h
    exact hderivation.height_eq
  | query h => exact height_eq_of_query h
  | run _ h ih => exact height_eq_of_balanced ih h

end Reader

/-- The tree of a query is not higher than the limit. -/
theorem height_parse_le (raw : String) : (parse raw).tree.height ≤ heightLimit := by
  rw [Reader.parse_eq]
  cases hread : Reader.readText raw with
  | failed fault noted => simp [Query.rawTerm, Query.height, heightLimit]
  | done part rest noted =>
    rw [← (Reader.legible_of_readText hread).2]
    exact Reader.height_le_of_readText hread

/-! ## Going down a limited number of levels -/

/-- The documents that a query asks for, found without going down more than the given number of
levels. -/
def Index.evaluateWithin (index : Index) : Nat → Query → Option SlotSet
  | 0, _ => none
  | levels + 1, .and left right => do
    let found ← index.evaluateWithin levels left
    if found.isEmpty then some found
    else (index.evaluateWithin levels right).map found.inter
  | levels + 1, .or left right => do
    let found ← index.evaluateWithin levels left
    (index.evaluateWithin levels right).map found.union
  | levels + 1, .not operand =>
    (index.evaluateWithin levels operand).map index.allSlots.diff
  | _ + 1, leaf => some (index.evaluate leaf)

/-- The canonical text of a tree, written without going down more than the given number of
levels. -/
def Query.canonicalWithin : Nat → Query → Option String
  | 0, _ => none
  | levels + 1, .field name value => (canonicalWithin levels value).map (name ++ ":" ++ ·)
  | levels + 1, .and left right => do
    let first ← canonicalWithin levels left
    let second ← canonicalWithin levels right
    some ("(" ++ first ++ " AND " ++ second ++ ")")
  | levels + 1, .or left right => do
    let first ← canonicalWithin levels left
    let second ← canonicalWithin levels right
    some ("(" ++ first ++ " OR " ++ second ++ ")")
  | levels + 1, .not operand => (canonicalWithin levels operand).map ("NOT " ++ ·)
  | _ + 1, leaf => some leaf.canonical

/-- As many levels as a tree is high suffice to evaluate it. -/
theorem Index.evaluateWithin_of_height_le (index : Index) {tree : Query} {levels : Nat}
    (h : tree.height ≤ levels) :
    index.evaluateWithin levels tree = some (index.evaluate tree) := by
  induction levels generalizing tree with
  | zero => exact absurd tree.height_pos (by omega)
  | succ levels ih =>
    cases tree with
    | and left right =>
      rw [Query.height] at h
      simp only [evaluateWithin, evaluate, ih (by omega : left.height ≤ levels),
        ih (by omega : right.height ≤ levels), Option.bind_eq_bind, Option.bind_some,
        Option.map_some]
      split <;> rfl
    | or left right =>
      rw [Query.height] at h
      simp only [evaluateWithin, evaluate, ih (by omega : left.height ≤ levels),
        ih (by omega : right.height ≤ levels), Option.bind_eq_bind, Option.bind_some,
        Option.map_some]
    | not operand =>
      rw [Query.height] at h
      simp only [evaluateWithin, evaluate, ih (by omega : operand.height ≤ levels),
        Option.map_some]
    | _ => rfl

/-- As many levels as a tree is high suffice to write it. -/
theorem Query.canonicalWithin_of_height_le {tree : Query} {levels : Nat}
    (h : tree.height ≤ levels) : tree.canonicalWithin levels = some tree.canonical := by
  induction levels generalizing tree with
  | zero => exact absurd tree.height_pos (by omega)
  | succ levels ih =>
    cases tree with
    | field name value =>
      rw [height] at h
      simp only [canonicalWithin, canonical, ih (by omega : value.height ≤ levels),
        Option.map_some]
    | and left right =>
      rw [height] at h
      simp only [canonicalWithin, canonical, ih (by omega : left.height ≤ levels),
        ih (by omega : right.height ≤ levels), Option.bind_eq_bind, Option.bind_some]
    | or left right =>
      rw [height] at h
      simp only [canonicalWithin, canonical, ih (by omega : left.height ≤ levels),
        ih (by omega : right.height ≤ levels), Option.bind_eq_bind, Option.bind_some]
    | not operand =>
      rw [height] at h
      simp only [canonicalWithin, canonical, ih (by omega : operand.height ≤ levels),
        Option.map_some]
    | _ => rfl

/-- The tree of a query is not higher than the limit, and every part that is built on the way
carries the height of its tree.  So neither evaluation nor writing goes down more levels than the
limit, whatever the query is. -/
theorem parse_bounded (raw : String) :
    (parse raw).tree.height ≤ heightLimit ∧
      (∀ last part, Reader.Built last part → part.height = part.tree.height) ∧
      (∀ index : Index, index.evaluateWithin heightLimit (parse raw).tree =
        some (index.evaluate (parse raw).tree)) ∧
      (parse raw).tree.canonicalWithin heightLimit = some (parse raw).tree.canonical := by
  have hheight := height_parse_le raw
  exact ⟨hheight, fun _ _ hbuilt => hbuilt.height_eq,
    fun index => index.evaluateWithin_of_height_le hheight,
    Query.canonicalWithin_of_height_le hheight⟩

end TextSearch
