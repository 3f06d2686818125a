import TextSearch.Proofs.Query.Acceptance
import TextSearch.Proofs.Query.Associativity
import Mathlib.Data.Nat.Log

/-!
# Long runs of operands

A run of operands under one connective becomes a balanced tree, so its height grows with the
logarithm of the length of the run.  This is what lets a query of many words, or of many facets,
stay below the limit of heights.

Main results:

- Theorem `Connective.height_balance`: the height of a balanced tree over operands of one height.
- Theorem `Connective.mem_evaluate_balance`: a balanced tree finds what its operands find.
- Theorem `Derivation.tree_row`: primaries in a row stand for the balanced tree over them.
- Theorem `parse_of_row`: how a query of primaries in a row is read.
- Theorem `Symbol.scan_row`: how the text of such a query is scanned.
-/

namespace TextSearch

/-! ## Balanced trees -/

namespace Connective

/-- The balanced tree over operands of one height is higher than they are by the number of times
that their number can be halved. -/
theorem height_balance (connective : Connective) {operands : List Query} {height : Nat}
    (hall : ∀ operand ∈ operands, operand.height = height) (hne : operands ≠ []) :
    (connective.balance operands).height = height + Nat.clog 2 operands.length := by
  fun_induction Connective.balance connective operands with
  | case1 => contradiction
  | case2 operand => simp [hall operand List.mem_cons_self]
  | case3 first second rest whole half ihLeft ihRight =>
    have hwhole : 2 ≤ whole.length := by
      simp [whole]
    have hleftLength : (whole.take half).length = half := by
      rw [List.length_take]
      omega
    have hrightLength : (whole.drop half).length = whole.length - half := List.length_drop
    have hleft := ihLeft (fun operand hmem => hall operand (List.mem_of_mem_take hmem))
      (List.ne_nil_of_length_pos (by omega))
    have hright := ihRight (fun operand hmem => hall operand (List.mem_of_mem_drop hmem))
      (List.ne_nil_of_length_pos (by omega))
    -- The left half takes the odd operand, so it is the right one that may be shorter.
    have hhalves : Nat.clog 2 whole.length = Nat.clog 2 half + 1 :=
      Nat.clog_of_two_le Nat.one_lt_two hwhole
    have hshorter : Nat.clog 2 (whole.length - half) ≤ Nat.clog 2 half :=
      Nat.clog_mono_right 2 (by omega)
    rw [hleftLength] at hleft
    rw [hrightLength] at hright
    rw [Query.height_join, hleft, hright, hhalves]
    omega

/-- A balanced tree finds what all of its operands find, or what one of them finds. -/
theorem mem_evaluate_balance (connective : Connective) {operands : List Query}
    (hne : operands ≠ []) (index : Index) (slot : Slot) :
    slot ∈ index.evaluate (connective.balance operands) ↔
      connective.Finds index slot operands := by
  have hbalanced := balanced_map_ofTree connective hne
  have hmem := mem_evaluate_balanced hbalanced index slot
  have htrees : (operands.map Part.ofTree).map Part.tree = operands := by
    rw [List.map_map]
    exact List.map_id operands
  rw [Part.tree_ofTree, htrees] at hmem
  exact hmem

end Connective

/-! ## Primaries in a row -/

/-- The ways to write operands one behind the other: side by side, or with a connective between
them. -/
inductive Link where
  | beside
  | and
  | or

namespace Link

/-- What is written between two operands. -/
def between : Link → String
  | beside => " "
  | and => " AND "
  | or => " OR "

/-- The symbols that stand between two operands. -/
def symbols : Link → List Symbol
  | beside => []
  | and => [.and]
  | or => [.or]

/-- The connective of the operands.  Operands side by side widen each other, as long as none is a
negation. -/
def connective : Link → Connective
  | and => .and
  | beside | or => .or

/-- The category of a row: only *or* binds more loosely than a conjunction. -/
def category : Link → Category
  | beside | and => .conjunction
  | or => .disjunction

end Link

namespace Derivation

/-- A primary as a conjunction by itself. -/
def alone (operand : Derivation .primary) : Derivation .conjunction :=
  .ofNegation (.ofPrimary operand)

@[simp]
theorem tree_alone (operand : Derivation .primary) : (alone operand).tree = operand.tree := by
  simp [alone, tree, run]

/-- The row of one primary. -/
def rowOf (operand : Derivation .primary) : (link : Link) → Derivation link.category
  | .beside => alone operand
  | .and => alone operand
  | .or => .ofConjunction (alone operand)

/-- A row with one more primary. -/
def lengthen : {link : Link} → Derivation link.category → Derivation .primary →
    Derivation link.category
  | .beside, before, next => .beside before (.ofPrimary next)
  | .and, before, next => .and before (.ofPrimary next)
  | .or, before, next => .or before (alone next)

/-- Primaries in a row. -/
def row (link : Link) (first : Derivation .primary) (further : List (Derivation .primary)) :
    Derivation link.category :=
  further.foldl lengthen (rowOf first link)

/-- A row as a whole expression. -/
def ofRow : {link : Link} → Derivation link.category → Derivation .disjunction
  | .beside, row => .ofConjunction row
  | .and, row => .ofConjunction row
  | .or, row => row

/-! ### One more primary -/

section Lengthen

variable {link : Link} (before : Derivation link.category) (next : Derivation .primary)

/-- A longer row has the symbols of the row, of the link and of the operand. -/
theorem symbols_lengthen :
    (lengthen before next).symbols = before.symbols ++ (link.symbols ++ next.symbols) := by
  cases link <;> rfl

/-- A longer row is nested as deep as the deeper of the row and the operand. -/
theorem nesting_lengthen :
    (lengthen before next).nesting = max before.nesting next.nesting := by
  cases link <;> rfl

theorem unclosedGroups_lengthen :
    (lengthen before next).unclosedGroups = before.unclosedGroups + next.unclosedGroups := by
  cases link <;> rfl

/-- One more primary extends the run.  Side by side, it must not be a negation. -/
theorem run_lengthen (h : Connective.implied next.tree = .or) :
    (lengthen before next).run = before.run.extend link.connective next.tree := by
  have hnext : (Derivation.ofPrimary next).run.tree = next.tree := Run.tree_single _
  cases link with
  | beside =>
    change before.run.extend (.implied (Derivation.ofPrimary next).run.tree)
      (Derivation.ofPrimary next).run.tree = _
    rw [hnext, h]
    rfl
  | and =>
    change before.run.extend .and (Derivation.ofPrimary next).run.tree = _
    rw [hnext]
    rfl
  | or =>
    change before.run.extend .or (alone next).tree = _
    rw [tree_alone]
    rfl

end Lengthen

/-! ### Whole rows -/

variable (link : Link) (first : Derivation .primary) (further : List (Derivation .primary))

/-- A row is lengthened at its end. -/
theorem row_append_singleton (next : Derivation .primary) :
    row link first (further ++ [next]) = lengthen (row link first further) next := by
  rw [row, List.foldl_append]
  rfl

/-- A row has the symbols of its operands with the link between them. -/
theorem symbols_row :
    (row link first further).symbols =
      first.symbols ++ further.flatMap fun next => link.symbols ++ next.symbols := by
  induction further using List.reverseRecOn with
  | nil =>
    rw [List.flatMap_nil, List.append_nil]
    cases link <;> rfl
  | append_singleton further next ih =>
    rw [row_append_singleton, symbols_lengthen, ih, List.flatMap_append, List.append_assoc]
    simp

/-- A row of operands without groups is not nested. -/
theorem nesting_row (h : ∀ operand ∈ first :: further, operand.nesting = 0) :
    (row link first further).nesting = 0 := by
  induction further using List.reverseRecOn with
  | nil =>
    have hfirst := h first List.mem_cons_self
    cases link <;> exact hfirst
  | append_singleton further next ih =>
    have hbefore := ih fun operand hmem => h operand (by simp at hmem ⊢; tauto)
    have hnext := h next (by simp)
    rw [row_append_singleton, nesting_lengthen, hbefore, hnext, Nat.max_self]

theorem unclosedGroups_row (h : ∀ operand ∈ first :: further, operand.unclosedGroups = 0) :
    (row link first further).unclosedGroups = 0 := by
  induction further using List.reverseRecOn with
  | nil =>
    have hfirst := h first List.mem_cons_self
    cases link <;> exact hfirst
  | append_singleton further next ih =>
    have hbefore := ih fun operand hmem => h operand (by simp at hmem ⊢; tauto)
    have hnext := h next (by simp)
    rw [row_append_singleton, unclosedGroups_lengthen, hbefore, hnext]

/-- The primaries are the operands of one run, if none of them is a negation. -/
theorem run_row (h : ∀ operand ∈ further, Connective.implied operand.tree = .or) :
    (row link first further).run =
      ⟨if further.isEmpty then none else some link.connective, first.tree, further.map tree⟩ := by
  induction further using List.reverseRecOn with
  | nil =>
    have hsingle : (row link first []).run = .single first.tree := by
      cases link with
      | beside => exact congrArg Run.single (Run.tree_single _)
      | and => exact congrArg Run.single (Run.tree_single _)
      | or => exact congrArg Run.single (tree_alone first)
    exact hsingle
  | append_singleton further next ih =>
    have hbefore := ih fun operand hmem => h operand (List.mem_append_left _ hmem)
    have hall : (row link first further).run.connective.all (· = link.connective) = true := by
      rw [hbefore]
      cases further <;> simp
    rw [row_append_singleton, run_lengthen _ _ (h next (by simp)), Run.extend_of_all hall, hbefore]
    simp

/-- Primaries in a row stand for the balanced tree over them, if none of them is a negation. -/
theorem tree_row (h : ∀ operand ∈ further, Connective.implied operand.tree = .or) :
    (row link first further).tree = link.connective.balance ((first :: further).map tree) := by
  rw [tree, run_row link first further h, Run.tree, Run.operands, List.map_cons]
  cases further with
  | nil => simp [Connective.balance]
  | cons next further => rfl

/-! ### Rows as expressions -/

section OfRow

variable {link} (whole : Derivation link.category)

/-- A row has the same symbols as a whole expression. -/
theorem symbols_ofRow : (ofRow whole).symbols = whole.symbols := by
  cases link <;> rfl

theorem nesting_ofRow : (ofRow whole).nesting = whole.nesting := by
  cases link <;> rfl

theorem unclosedGroups_ofRow : (ofRow whole).unclosedGroups = whole.unclosedGroups := by
  cases link <;> rfl

theorem tree_ofRow : (ofRow whole).tree = whole.tree := by
  cases link with
  | beside => exact Run.tree_single _
  | and => exact Run.tree_single _
  | or => rfl

end OfRow

end Derivation

/-- Primaries without groups that stand in a row are read as the balanced tree over them, if none
of them is a negation and the tree is not too high. -/
theorem parse_of_row {raw : String} {link : Link} {first : Derivation .primary}
    {further : List (Derivation .primary)}
    (hsymbols : Symbol.scan raw.toList = (Derivation.row link first further).symbols)
    (hclosed : ∀ operand ∈ first :: further, operand.unclosedGroups = 0)
    (hnesting : ∀ operand ∈ first :: further, operand.nesting = 0)
    (himplied : ∀ operand ∈ further, Connective.implied operand.tree = .or)
    (hheight : (link.connective.balance ((first :: further).map Derivation.tree)).height ≤
      heightLimit) :
    parse raw = ⟨link.connective.balance ((first :: further).map Derivation.tree), []⟩ := by
  have htree : (Derivation.ofRow (Derivation.row link first further)).tree =
      link.connective.balance ((first :: further).map Derivation.tree) := by
    rw [Derivation.tree_ofRow, Derivation.tree_row link first further himplied]
  rw [← htree]
  apply parse_of_derives
  · constructor
    · rw [map_symbol_tokens, Derivation.symbols_ofRow, hsymbols]
    · rw [Derivation.unclosedGroups_ofRow, Derivation.unclosedGroups_row link first further hclosed]
  · rw [Derivation.nesting_ofRow, Derivation.nesting_row link first further hnesting]
    exact Nat.zero_le _
  · rw [htree]
    exact hheight

/-! ## Rows as texts -/

namespace Symbol

/-- What is written between two operands is scanned as the symbols between them. -/
theorem scan_between (link : Link) (tail : List Char) :
    scan (link.between.toList ++ tail) = link.symbols ++ scan tail := by
  cases link with
  | beside => exact scan_cons_of_blank (by decide) tail
  | and => exact scan_connective .and tail
  | or => exact scan_connective .or tail

/-- Pieces of text that are scanned as primaries wherever a word may end are scanned one by one. -/
theorem scan_row {α : Type} (link : Link) (piece : α → String)
    (derivation : α → Derivation .primary) (first : α) (further : List α)
    (h : ∀ x ∈ first :: further, ∀ tail, StopsAt isWordPart tail →
      scan ((piece x).toList ++ tail) = (derivation x).symbols ++ scan tail) :
    scan (link.between.intercalate ((first :: further).map piece)).toList =
      (Derivation.row link (derivation first) (further.map derivation)).symbols := by
  rw [Derivation.symbols_row, List.flatMap_map]
  induction further generalizing first with
  | nil =>
    have hfirst := h first List.mem_cons_self [] (stopsAt_nil _)
    rw [List.append_nil] at hfirst
    rw [List.map_singleton, String.intercalate_singleton, hfirst, scan_nil, List.flatMap_nil]
  | cons next further ih =>
    have hnext := ih next fun x hx => h x (List.mem_cons_of_mem _ hx)
    have hstop : StopsAt isWordPart (link.between.toList ++
        (link.between.intercalate ((next :: further).map piece)).toList) := by
      cases link with
      | beside => exact stopsAt_cons _ (by decide)
      | and => exact stopsAt_cons _ (by decide)
      | or => exact stopsAt_cons _ (by decide)
    rw [List.map_cons, List.map_cons, String.intercalate_cons_cons, String.toList_append,
      String.toList_append, List.append_assoc, ← List.map_cons,
      h first List.mem_cons_self _ hstop, scan_between, hnext, List.flatMap_cons,
      List.append_assoc]

end Symbol
end TextSearch
