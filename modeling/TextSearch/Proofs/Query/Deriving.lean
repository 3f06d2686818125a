import TextSearch.Proofs.Query.Grammar

/-!
# Everything that is read is derived

Whatever the reader gives back has a derivation: the symbols that were taken off the tokens are
those of the derivation, the part that was read is the tree of the derivation with its height, and
one fault was noted for every group that is not closed.

The loops over operands extend the derivation of what was read before them, so their lemmas speak of
all symbols since that derivation began (`Reader.Explained`).

Main results:

- Theorem `derived_expression`: every expression that is read has a derivation within the limits.
- Theorem `exists_of_queryFrom`: what every round of a query keeps holds at its end.
- Theorem `exists_derives_of_errors_eq_nil`: a query with which nothing is wrong is a sentence of
  the grammar.
-/

namespace TextSearch

/-! ## Inversion of steps -/

namespace Step

variable {part : Part} {rest : List Token} {noted : List SyntaxError}

/-- Where reading goes on to its end, the step before it was done. -/
theorem exists_of_bind {next : Part → Reader Part} {step : Step Part}
    (h : (match step with
      | .failed fault noted => Step.failed fault noted
      | .done first after noted => next first after noted) = .done part rest noted) :
    ∃ first after noted', step = .done first after noted' ∧
      next first after noted' = .done part rest noted := by
  cases step with
  | done first after noted' => exact ⟨first, after, noted', rfl, h⟩
  | failed fault noted' => contradiction

/-- Where reading goes on to its end, the work on chains before it succeeded. -/
theorem exists_of_chain {next : Chain → Step Part} {noted' : List SyntaxError}
    {result : Except SyntaxError Chain}
    (h : (match result with
      | .error fault => Step.failed fault noted'
      | .ok chain => next chain) = .done part rest noted) :
    ∃ chain, result = .ok chain ∧ next chain = .done part rest noted := by
  cases result with
  | ok chain => exact ⟨chain, rfl, h⟩
  | error fault => contradiction

end Step

/-- What has been read since a place where the given symbols followed and the given number of faults
had been noted: a derivation of the symbols that were taken, its tree with its height, and a fault
for every group that is not closed. -/
structure Reader.Explained {category : Category} (levels : Nat) (symbols : List Symbol)
    (faults : Nat) (derivation : Derivation category) (part : Part) (rest : List Token)
    (noted : List SyntaxError) : Prop where
  symbols_eq : symbols = derivation.symbols ++ rest.map Token.symbol
  part_eq : part = .ofTree derivation.tree
  height_le : derivation.tree.height ≤ heightLimit
  nesting_le : derivation.nesting ≤ levels
  length_noted : noted.length = faults + derivation.unclosedGroups

namespace Reader

/-- Everything that is read this way has a derivation of the category within the limits. -/
def Derived (category : Category) (levels : Nat) (reader : Reader Part) : Prop :=
  ∀ {tokens noted part rest noted'}, reader tokens noted = .done part rest noted' →
    ∃ derivation : Derivation category,
      Explained levels (tokens.map Token.symbol) noted.length derivation part rest noted'

/-- Finishing a chain takes no token and notes nothing. -/
theorem rest_of_finish {chain : Chain} {tokens rest : List Token} {part : Part}
    {noted noted' : List SyntaxError} (h : finish chain tokens noted = .done part rest noted') :
    rest = tokens ∧ noted' = noted := by
  rw [finish] at h
  cases hcollapse : chain.collapse with
  | error fault =>
    rw [hcollapse] at h
    contradiction
  | ok whole =>
    rw [hcollapse, Step.done.injEq] at h
    exact ⟨h.2.1.symm, h.2.2.symm⟩

/-- What a finished chain gives is the tree of its run, within the height. -/
theorem exists_of_finish {chain : Chain} {run : Run} (hchain : chain.Holds run)
    {tokens rest : List Token} {part : Part} {noted noted' : List SyntaxError}
    (h : finish chain tokens noted = .done part rest noted') :
    part = .ofTree run.tree ∧ run.tree.height ≤ heightLimit ∧ rest = tokens ∧ noted' = noted := by
  rw [finish, hchain.collapse] at h
  by_cases hhigh : run.tree.height > heightLimit
  · simp [hhigh] at h
  · simp only [if_neg hhigh, Step.done.injEq] at h
    exact ⟨h.1.symm, Nat.le_of_not_lt hhigh, h.2.1.symm, h.2.2.symm⟩

/-! ## Operands -/

/-- A field that is read with its value has a derivation as a primary. -/
theorem derived_fieldValue {name : String} {position levels : Nat} {tokens rest : List Token}
    {noted noted' : List SyntaxError} {part : Part}
    (h : fieldValue name position tokens noted = .done part rest noted') :
    ∃ derivation : Derivation .primary, Explained levels
      (.field name :: tokens.map Token.symbol) noted.length derivation part rest noted' := by
  cases tokens with
  | nil => contradiction
  | cons token tokens =>
    rw [fieldValue] at h
    cases hleaf : leaf? token.symbol with
    | none =>
      rw [hleaf] at h
      contradiction
    | some value =>
      rw [hleaf] at h
      simp only [Step.done.injEq] at h
      rcases h with ⟨rfl, rfl, rfl⟩
      rcases Leaf.exists_of_leaf? hleaf with ⟨leaf, hsymbol, rfl⟩
      refine ⟨.field name leaf, ?_, ?_, ?_, ?_, ?_⟩
      · simp [Derivation.symbols, hsymbol]
      · simp [Derivation.tree, Derivation.run, Part.ofTree, Query.height]
      · simp [Derivation.tree, Derivation.run, Query.height, heightLimit]
      · exact Nat.zero_le levels
      · rfl

section Operands

variable {group : Nat → Reader Part} {last levels : Nat}

/-- What an opening parenthesis leads to has derivations that begin with it. -/
def DerivedGroups (levels : Nat) (group : Nat → Reader Part) : Prop :=
  ∀ {position tokens noted part rest noted'},
    group position tokens noted = .done part rest noted' →
    ∃ derivation : Derivation .primary, Explained levels
      (.opening :: tokens.map Token.symbol) noted.length derivation part rest noted'

/-- A primary that is read has a derivation when groups do. -/
theorem derived_primary (hgroup : DerivedGroups levels group) :
    Derived .primary levels (primary group) := by
  intro tokens noted part rest noted' h
  cases tokens with
  | nil => contradiction
  | cons token tokens =>
    rcases token with ⟨symbol, position⟩
    cases hleaf : leaf? symbol with
    | some value =>
      rw [primary_of_leaf hleaf, Step.done.injEq] at h
      rcases h with ⟨rfl, rfl, rfl⟩
      rcases Leaf.exists_of_leaf? hleaf with ⟨leaf, hsymbol, rfl⟩
      refine ⟨.leaf leaf, ?_, ?_, ?_, ?_, ?_⟩
      · simp [Derivation.symbols, hsymbol]
      · simp [Derivation.tree, Derivation.run, Part.ofTree]
      · simp [Derivation.tree, Derivation.run, heightLimit]
      · exact Nat.zero_le levels
      · rfl
    | none =>
      cases symbol with
      | opening => exact hgroup h
      | field name => exact derived_fieldValue h
      | and => contradiction
      | or => contradiction
      | not => contradiction
      | closing => contradiction
      | _ => simp [leaf?] at hleaf

/-- A negation that is read has a derivation when groups do. -/
theorem derived_negation (hgroup : DerivedGroups levels group) :
    Derived .negation levels (negation group) := by
  intro tokens noted part rest noted' h
  by_cases hnot : ∃ position after, tokens = ⟨.not, position⟩ :: after
  · obtain ⟨position, after, rfl⟩ := hnot
    rw [negation] at h
    obtain ⟨operand, rest', noted₁, hprimary, h⟩ := Step.exists_of_bind h
    obtain ⟨derivation, hderivation⟩ := derived_primary hgroup hprimary
    have hpart := hderivation.part_eq
    by_cases hhigh : operand.height ≥ heightLimit
    · simp [hhigh] at h
    · simp only [if_neg hhigh, Step.done.injEq] at h
      rcases h with ⟨rfl, rfl, rfl⟩
      have hlow : derivation.tree.height < heightLimit := by
        rw [hpart] at hhigh
        exact Nat.lt_of_not_le hhigh
      refine ⟨.not derivation, ?_, ?_, ?_, ?_, ?_⟩
      · simp [Derivation.symbols, hderivation.symbols_eq]
      · simp [hpart, Derivation.tree, Derivation.run, Part.ofTree, Query.height]
      · simp only [Derivation.tree, Derivation.run, Run.tree_single, Query.height] at hlow ⊢
        omega
      · exact hderivation.nesting_le
      · exact hderivation.length_noted
  · have hprimary : primary group tokens noted = .done part rest noted' := by
      rw [← h, negation]
      intro position after heq
      exact hnot ⟨position, after, heq⟩
    obtain ⟨derivation, hderivation⟩ := derived_primary hgroup hprimary
    have htree : (Derivation.ofPrimary derivation).tree = derivation.tree := by
      simp [Derivation.tree, Derivation.run]
    refine ⟨.ofPrimary derivation, hderivation.symbols_eq, ?_, ?_, hderivation.nesting_le,
      hderivation.length_noted⟩
    · rw [htree, hderivation.part_eq]
    · rw [htree]
      exact hderivation.height_le

/-! ## Loops over operands -/

/-- Symbols were taken off the tokens, so fewer tokens are left. -/
theorem Explained.length_lt {category : Category} {tokens rest : List Token} {faults : Nat}
    {derivation : Derivation category} {part : Part} {noted : List SyntaxError}
    (h : Explained levels (tokens.map Token.symbol) faults derivation part rest noted) :
    rest.length < tokens.length := by
  have hlength := congrArg List.length h.symbols_eq
  have hpositive := List.length_pos_of_ne_nil derivation.symbols_ne_nil
  simp only [List.length_map, List.length_append] at hlength
  omega

/-- A loop that ends leaves the derivation as it is. -/
theorem explained_of_finish {category : Category} (derivation : Derivation category)
    {chain : Chain} (hchain : chain.Holds derivation.run) (hnesting : derivation.nesting ≤ levels)
    {symbols : List Symbol} {faults : Nat} {tokens rest : List Token} {part : Part}
    {noted noted' : List SyntaxError}
    (hsymbols : symbols = derivation.symbols ++ tokens.map Token.symbol)
    (hfaults : noted.length = faults + derivation.unclosedGroups)
    (h : finish chain tokens noted = .done part rest noted') :
    Explained levels symbols faults derivation part rest noted' ∧ rest = tokens := by
  obtain ⟨hpart, hheight, rfl, rfl⟩ := exists_of_finish hchain h
  exact ⟨⟨hsymbols, hpart, hheight, hnesting, hfaults⟩, rfl⟩

/-- What is read on from a derived conjunction is a longer conjunction with a derivation; by
induction on the rounds. -/
theorem derived_conjunctionFrom (hgroup : DerivedGroups levels group)
    {rounds : List Token} {chain : Chain} (before : Derivation .conjunction)
    (hchain : chain.Holds before.run) (hnesting : before.nesting ≤ levels)
    {symbols : List Symbol} {faults : Nat} {tokens rest : List Token} {part : Part}
    {noted noted' : List SyntaxError} (hrounds : tokens.length ≤ rounds.length)
    (hsymbols : symbols = before.symbols ++ tokens.map Token.symbol)
    (hfaults : noted.length = faults + before.unclosedGroups)
    (h : conjunctionFrom group last rounds chain tokens noted = .done part rest noted') :
    ∃ derivation : Derivation .conjunction,
      Explained levels symbols faults derivation part rest noted' ∧ EndsConjunction rest := by
  induction rounds generalizing chain before tokens noted with
  | nil =>
    have hnil : tokens = [] := List.eq_nil_of_length_eq_zero (Nat.le_zero.mp hrounds)
    obtain ⟨hbefore, rfl⟩ := explained_of_finish before hchain hnesting hsymbols hfaults h
    exact ⟨before, hbefore, by simp [hnil, EndsConjunction]⟩
  | cons round rounds ih =>
    cases tokens with
    | nil =>
      obtain ⟨hbefore, rfl⟩ := explained_of_finish before hchain hnesting hsymbols hfaults h
      exact ⟨before, hbefore, by simp [EndsConjunction]⟩
    | cons token tokens =>
      rw [conjunctionFrom] at h
      rw [List.length_cons, List.length_cons] at hrounds
      by_cases hand : token.symbol = .and
      · rw [if_pos hand] at h
        obtain ⟨operand, after, noted₁, hoperand, h⟩ := Step.exists_of_bind h
        obtain ⟨chain', hpush, h⟩ := Step.exists_of_chain h
        obtain ⟨next, hnext⟩ := derived_negation hgroup hoperand
        have hlength := hnext.length_lt
        rw [hnext.part_eq] at hpush
        refine ih (.and before next) (hchain.push hpush) ?_ ?_ ?_ ?_ h
        · exact Nat.max_le.mpr ⟨hnesting, hnext.nesting_le⟩
        · omega
        · simp [hsymbols, Derivation.symbols, hand, hnext.symbols_eq]
        · simp only [Derivation.unclosedGroups, hnext.length_noted]
          omega
      · rw [if_neg hand] at h
        by_cases hstarts : token.symbol.startsOperand = true
        · rw [if_pos hstarts] at h
          obtain ⟨operand, after, noted₁, hoperand, h⟩ := Step.exists_of_bind h
          obtain ⟨chain', hpush, h⟩ := Step.exists_of_chain h
          obtain ⟨next, hnext⟩ := derived_negation hgroup hoperand
          have hlength := hnext.length_lt
          rw [List.length_cons] at hlength
          rw [hnext.part_eq] at hpush
          refine ih (.beside before next) (hchain.push hpush) ?_ ?_ ?_ ?_ h
          · exact Nat.max_le.mpr ⟨hnesting, hnext.nesting_le⟩
          · omega
          · simp [hsymbols, Derivation.symbols, hnext.symbols_eq]
          · simp only [Derivation.unclosedGroups, hnext.length_noted]
            omega
        · rw [if_neg hstarts] at h
          obtain ⟨hbefore, rfl⟩ := explained_of_finish before hchain hnesting hsymbols hfaults h
          exact ⟨before, hbefore, endsConjunction_cons hand hstarts tokens⟩

/-- A conjunction that is read has a derivation, and ends where no operand follows. -/
theorem derived_conjunction (hgroup : DerivedGroups levels group) {tokens rest : List Token}
    {part : Part} {noted noted' : List SyntaxError}
    (h : conjunction group last tokens noted = .done part rest noted') :
    ∃ derivation : Derivation .conjunction,
      Explained levels (tokens.map Token.symbol) noted.length derivation part rest noted' ∧
        EndsConjunction rest := by
  rw [conjunction] at h
  obtain ⟨operand, after, noted₁, hoperand, h⟩ := Step.exists_of_bind h
  obtain ⟨first, hfirst⟩ := derived_negation hgroup hoperand
  rw [hfirst.part_eq] at h
  exact derived_conjunctionFrom hgroup (.ofNegation first) (Chain.holds_start _ _)
    hfirst.nesting_le (Nat.le_refl _) hfirst.symbols_eq hfirst.length_noted h

/-- What is read on from a derived disjunction is a longer disjunction with a derivation; by
induction on the rounds. -/
theorem derived_disjunctionFrom (hgroup : DerivedGroups levels group)
    {rounds : List Token} {chain : Chain} (before : Derivation .disjunction)
    (hchain : chain.Holds before.run) (hnesting : before.nesting ≤ levels)
    {symbols : List Symbol} {faults : Nat} {tokens rest : List Token} {part : Part}
    {noted noted' : List SyntaxError} (hrounds : tokens.length ≤ rounds.length)
    (hends : EndsConjunction tokens)
    (hsymbols : symbols = before.symbols ++ tokens.map Token.symbol)
    (hfaults : noted.length = faults + before.unclosedGroups)
    (h : disjunctionFrom group last rounds chain tokens noted = .done part rest noted') :
    ∃ derivation : Derivation .disjunction,
      Explained levels symbols faults derivation part rest noted' ∧ EndsDisjunction rest := by
  induction rounds generalizing chain before tokens noted with
  | nil =>
    have hnil : tokens = [] := List.eq_nil_of_length_eq_zero (Nat.le_zero.mp hrounds)
    obtain ⟨hbefore, rfl⟩ := explained_of_finish before hchain hnesting hsymbols hfaults h
    exact ⟨before, hbefore, by simp [hnil, EndsDisjunction]⟩
  | cons round rounds ih =>
    cases tokens with
    | nil =>
      obtain ⟨hbefore, rfl⟩ := explained_of_finish before hchain hnesting hsymbols hfaults h
      exact ⟨before, hbefore, by simp [EndsDisjunction]⟩
    | cons token tokens =>
      rw [disjunctionFrom] at h
      rw [List.length_cons, List.length_cons] at hrounds
      by_cases hor : token.symbol = .or
      · rw [if_pos hor] at h
        obtain ⟨operand, after, noted₁, hoperand, h⟩ := Step.exists_of_bind h
        obtain ⟨chain', hpush, h⟩ := Step.exists_of_chain h
        obtain ⟨next, hnext, hafter⟩ := derived_conjunction hgroup hoperand
        have hlength := hnext.length_lt
        rw [hnext.part_eq] at hpush
        refine ih (.or before next) (hchain.push hpush) ?_ ?_ hafter ?_ ?_ h
        · exact Nat.max_le.mpr ⟨hnesting, hnext.nesting_le⟩
        · omega
        · simp [hsymbols, Derivation.symbols, hor, hnext.symbols_eq]
        · simp only [Derivation.unclosedGroups, hnext.length_noted]
          omega
      · rw [if_neg hor] at h
        obtain ⟨hbefore, rfl⟩ := explained_of_finish before hchain hnesting hsymbols hfaults h
        exact ⟨before, hbefore, hends.endsDisjunction hor⟩

/-- A disjunction that is read has a derivation, and ends at the end or at a closing parenthesis. -/
theorem derived_disjunction (hgroup : DerivedGroups levels group) {tokens rest : List Token}
    {part : Part} {noted noted' : List SyntaxError}
    (h : disjunction group last tokens noted = .done part rest noted') :
    ∃ derivation : Derivation .disjunction,
      Explained levels (tokens.map Token.symbol) noted.length derivation part rest noted' ∧
        EndsDisjunction rest := by
  rw [disjunction] at h
  obtain ⟨operand, after, noted₁, hoperand, h⟩ := Step.exists_of_bind h
  obtain ⟨first, hfirst, hafter⟩ := derived_conjunction hgroup hoperand
  rw [hfirst.part_eq] at h
  exact derived_disjunctionFrom hgroup (.ofConjunction first) (Chain.holds_start _ _)
    hfirst.nesting_le (Nat.le_refl _) hafter hfirst.symbols_eq hfirst.length_noted h

end Operands

/-! ## Groups and expressions -/

section Expressions

variable {last levels : Nat} {tokens rest : List Token} {part : Part}
  {noted noted' : List SyntaxError}

/-- A group has a derivation with one level more than its inside. -/
theorem derived_inGroup {inside : Reader Part}
    (hinside : ∀ {tokens noted part rest noted'}, inside tokens noted = .done part rest noted' →
      ∃ derivation : Derivation .disjunction,
        Explained levels (tokens.map Token.symbol) noted.length derivation part rest noted' ∧
          EndsDisjunction rest) : DerivedGroups (levels + 1) (inGroup inside) := by
  intro position tokens noted part rest noted' h
  rw [inGroup] at h
  obtain ⟨part', after, noted₁, hpart, h⟩ := Step.exists_of_bind h
  obtain ⟨derivation, hderivation, -⟩ := hinside hpart
  have hnesting := Nat.succ_le_succ hderivation.nesting_le
  by_cases hclosing : ∃ place after', after = ⟨.closing, place⟩ :: after'
  · obtain ⟨place, after', rfl⟩ := hclosing
    rw [close, Step.done.injEq] at h
    rcases h with ⟨rfl, rfl, rfl⟩
    refine ⟨.group derivation, ?_, ?_, ?_, hnesting, hderivation.length_noted⟩
    · simp [Derivation.symbols, hderivation.symbols_eq]
    · simpa [Derivation.tree, Derivation.run] using hderivation.part_eq
    · simpa [Derivation.tree, Derivation.run] using hderivation.height_le
  · rw [close] at h
    · rw [Step.done.injEq] at h
      rcases h with ⟨rfl, rfl, rfl⟩
      refine ⟨.unclosed derivation, ?_, ?_, ?_, hnesting, ?_⟩
      · simp [Derivation.symbols, hderivation.symbols_eq]
      · simpa [Derivation.tree, Derivation.run] using hderivation.part_eq
      · simpa [Derivation.tree, Derivation.run] using hderivation.height_le
      · simp only [List.length_cons, Derivation.unclosedGroups, hderivation.length_noted]
        omega
    · intro place after' heq
      exact hclosing ⟨place, after', heq⟩

/-- Every expression that is read has a derivation within the limits, and nothing follows it but a
closing parenthesis. -/
theorem derived_expression (h : expression last levels tokens noted = .done part rest noted') :
    ∃ derivation : Derivation .disjunction,
      Explained levels (tokens.map Token.symbol) noted.length derivation part rest noted' ∧
        EndsDisjunction rest := by
  induction levels generalizing tokens noted part rest noted' with
  | zero =>
    apply derived_disjunction _ h
    intro position tokens noted part rest noted' hfailed
    contradiction
  | succ levels ih => exact derived_disjunction (derived_inGroup ih) h

/-! ## Whole queries -/

/-- The loop over expressions goes to the end of the tokens.  What holds where it begins, and still
holds where a closing parenthesis has been noted or an expression has been read, holds where it
ends. -/
theorem exists_of_queryFrom (holds : Chain → List Token → List SyntaxError → Prop)
    (closing : ∀ {chain place tokens noted}, holds chain (⟨.closing, place⟩ :: tokens) noted →
      holds chain tokens (.unmatchedClosing place :: noted))
    (operand : ∀ {chain next operand position tokens after noted noted'},
      holds chain tokens noted →
      expression last heightLimit tokens noted = .done operand after noted' →
      chain.push (Connective.implied operand.tree) operand position = .ok next →
      holds next after noted')
    {rounds : List Token} {chain : Chain} (hstart : holds chain tokens noted)
    (hrounds : tokens.length ≤ rounds.length)
    (h : queryFrom last rounds chain tokens noted = .done part rest noted') :
    ∃ whole, holds whole [] noted' ∧ finish whole [] noted' = .done part rest noted' := by
  induction rounds generalizing chain tokens noted with
  | nil =>
    have hnil : tokens = [] := List.eq_nil_of_length_eq_zero (Nat.le_zero.mp hrounds)
    subst hnil
    obtain ⟨-, rfl⟩ := rest_of_finish h
    exact ⟨chain, hstart, h⟩
  | cons round rounds ih =>
    cases tokens with
    | nil =>
      obtain ⟨-, rfl⟩ := rest_of_finish h
      exact ⟨chain, hstart, h⟩
    | cons token tokens =>
      rcases token with ⟨symbol, position⟩
      rw [queryFrom] at h
      rw [List.length_cons, List.length_cons] at hrounds
      by_cases hclosing : symbol = .closing
      · subst hclosing
        rw [if_pos rfl] at h
        exact ih (closing hstart) (by omega) h
      · rw [if_neg hclosing] at h
        obtain ⟨part', after, noted₁, hoperand, h⟩ := Step.exists_of_bind h
        obtain ⟨next, hpush, h⟩ := Step.exists_of_chain h
        obtain ⟨derivation, hderivation, -⟩ := derived_expression hoperand
        have hlength := hderivation.length_lt
        rw [List.length_cons] at hlength
        exact ih (operand hstart hoperand hpush) (by omega) h

/-- Faults that were noted are never taken back. -/
theorem length_le_of_queryFrom {rounds : List Token} {chain : Chain}
    (hrounds : tokens.length ≤ rounds.length)
    (h : queryFrom last rounds chain tokens noted = .done part rest noted') :
    noted.length ≤ noted'.length := by
  have hend := exists_of_queryFrom (fun _ _ noted₁ => noted.length ≤ noted₁.length)
    Nat.le_succ_of_le ?_ (Nat.le_refl _) hrounds h
  · obtain ⟨whole, hle, -⟩ := hend
    exact hle
  · intro chain next operand position tokens after noted₁ noted₂ hle hoperand hpush
    obtain ⟨derivation, hderivation, -⟩ := derived_expression hoperand
    rw [hderivation.length_noted]
    omega

/-- Behind the first expression of a query with which nothing is wrong there are no tokens. -/
theorem eq_nil_of_queryFrom {chain : Chain} (hends : EndsDisjunction tokens)
    (h : queryFrom last tokens chain tokens noted = .done part rest []) : tokens = [] := by
  cases tokens with
  | nil => rfl
  | cons token tokens =>
    rw [queryFrom, if_pos (hends token rfl)] at h
    have hle := length_le_of_queryFrom (Nat.le_refl _) h
    simp at hle

end Expressions

end Reader

/-- A query with which nothing is wrong is a sentence of the grammar within the limits, and its tree
is the tree of the sentence. -/
theorem exists_derives_of_errors_eq_nil {raw : String} (h : (parse raw).errors = []) :
    ∃ derivation : Derivation .disjunction,
      derivation.Derives ((tokens raw).map Token.symbol) ∧
        derivation.nesting ≤ heightLimit ∧ derivation.tree.height ≤ heightLimit ∧
        (parse raw).tree = derivation.tree := by
  rw [parse] at h ⊢
  cases hlast : (tokens raw).getLast? with
  | none =>
    rw [hlast] at h
    contradiction
  | some last =>
    rw [hlast] at h
    dsimp only at h ⊢
    cases hread : Reader.query last.position (tokens raw) [] with
    | failed fault noted =>
      rw [hread] at h
      simp at h
    | done part rest noted =>
      rw [hread] at h
      have hnoted : noted = [] := List.reverse_eq_nil_iff.mp h
      rw [hnoted, Reader.query] at hread
      obtain ⟨first, after, noted₁, hfirst, hread⟩ := Step.exists_of_bind hread
      obtain ⟨derivation, hderivation, hends⟩ := Reader.derived_expression hfirst
      have hafter := Reader.eq_nil_of_queryFrom hends hread
      rw [hafter] at hread hderivation
      rw [hderivation.part_eq, Reader.queryFrom] at hread
      obtain ⟨hpart, -, -, hunnoted⟩ :=
        Reader.exists_of_finish (Chain.holds_start derivation.tree _) hread
      have hlength := hderivation.length_noted
      simp only [← hunnoted, List.length_nil] at hlength
      refine ⟨derivation, ⟨?_, by omega⟩, hderivation.nesting_le, hderivation.height_le, ?_⟩
      · simpa using hderivation.symbols_eq.symm
      · rw [hpart]
        simp

end TextSearch
