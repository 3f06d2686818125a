import TextSearch.Proofs.Query.Deriving

/-!
# What is taken off the tokens

An expression that is read takes tokens off the beginning, at least one, and notes one fault for
every group that is not closed.  Such a group goes to the end of the tokens: where an expression
ends before the tokens do, it ends before a closing parenthesis.  So the groups that are not closed
are noted from the inside out, and nothing is read after the first of them has been noted.

`Reader.Taken` says this of the tokens alone, without their trees.  Connectives do not matter here,
so it tells neither conjunctions from disjunctions nor operands from runs of them.

Main results:

- Theorems `Took.beside` and `Took.joined`: what two readers take one after the other.
- Theorem `took_expression`: what an expression takes, at every level.
-/

namespace TextSearch
namespace Reader

/-- The tokens of an expression, and the faults that are noted while they are read, latest
first. -/
inductive Taken : List Token → List SyntaxError → Prop
  | leaf {token : Token} {value : Query} : leaf? token.symbol = some value → Taken [token] []
  | field (name : String) (position : Nat) {token : Token} {value : Query} :
    leaf? token.symbol = some value → Taken [⟨.field name, position⟩, token] []
  | not (position : Nat) {tokens : List Token} {faults : List SyntaxError} :
    Taken tokens faults → Taken (⟨.not, position⟩ :: tokens) faults
  | group (position place : Nat) {tokens : List Token} :
    Taken tokens [] → Taken (⟨.opening, position⟩ :: (tokens ++ [⟨.closing, place⟩])) []
  | unclosed (position : Nat) {tokens : List Token} {faults : List SyntaxError} :
    Taken tokens faults →
    Taken (⟨.opening, position⟩ :: tokens) (.unclosedGroup position :: faults)
  | beside {before next : List Token} {faults : List SyntaxError} :
    Taken before [] → Taken next faults → Taken (before ++ next) faults
  | joined (connective : Connective) (position : Nat) {before next : List Token}
    {faults : List SyntaxError} :
    Taken before [] → Taken next faults →
    Taken (before ++ ⟨connective.symbol, position⟩ :: next) faults

theorem Taken.ne_nil {tokens : List Token} {faults : List SyntaxError} (h : Taken tokens faults) :
    tokens ≠ [] := by
  induction h with
  | beside _ _ ih _ => simp [ih]
  | _ => simp

/-- From the one place to the other, the tokens of an expression were taken and its faults noted; a
fault is noted at the end of the tokens only. -/
structure Took (tokens : List Token) (noted : List SyntaxError) (rest : List Token)
    (noted' : List SyntaxError) : Prop where
  exists_taken : ∃ taken faults, Taken taken faults ∧ tokens = taken ++ rest ∧
    noted' = faults ++ noted ∧ (faults ≠ [] → rest = [])

namespace Took

variable {tokens middle rest : List Token} {noted noted' noted'' : List SyntaxError}

/-- Where tokens are left, nothing was noted. -/
theorem exists_taken_of_ne_nil (h : Took tokens noted rest noted') (hrest : rest ≠ []) :
    ∃ taken, Taken taken [] ∧ tokens = taken ++ rest ∧ noted' = noted := by
  obtain ⟨taken, faults, htaken, htokens, hnoted, hend⟩ := h.exists_taken
  have hfaults : faults = [] := by
    by_contra hne
    exact hrest (hend hne)
  subst hfaults
  exact ⟨taken, htaken, htokens, hnoted⟩

theorem tokens_ne_nil (h : Took tokens noted rest noted') : tokens ≠ [] := by
  obtain ⟨taken, faults, htaken, htokens, -, -⟩ := h.exists_taken
  rw [htokens]
  simp [htaken.ne_nil]

theorem length_lt (h : Took tokens noted rest noted') : rest.length < tokens.length := by
  obtain ⟨taken, faults, htaken, rfl, -, -⟩ := h.exists_taken
  have hpos := List.length_pos_of_ne_nil htaken.ne_nil
  rw [List.length_append]
  omega

/-- Tokens that were taken without a fault. -/
theorem of_taken {taken : List Token} (h : Taken taken []) (rest : List Token)
    (noted : List SyntaxError) : Took (taken ++ rest) noted rest noted :=
  ⟨taken, [], h, rfl, rfl, by simp⟩

/-- What is taken directly behind other tokens stands beside them. -/
theorem beside (h : Took tokens noted middle noted') (h' : Took middle noted' rest noted'') :
    Took tokens noted rest noted'' := by
  obtain ⟨before, hbefore, rfl, rfl⟩ := h.exists_taken_of_ne_nil h'.tokens_ne_nil
  obtain ⟨next, faults, hnext, rfl, rfl, hend⟩ := h'.exists_taken
  exact ⟨before ++ next, faults, hbefore.beside hnext, (List.append_assoc _ _ _).symm, rfl, hend⟩

/-- What is taken behind a connective is joined to the tokens before it. -/
theorem joined (connective : Connective) {position : Nat}
    (h : Took tokens noted (⟨connective.symbol, position⟩ :: middle) noted')
    (h' : Took middle noted' rest noted'') : Took tokens noted rest noted'' := by
  obtain ⟨before, hbefore, rfl, rfl⟩ := h.exists_taken_of_ne_nil (List.cons_ne_nil _ _)
  obtain ⟨next, faults, hnext, rfl, rfl, hend⟩ := h'.exists_taken
  exact ⟨_, faults, hbefore.joined connective position hnext, by simp, rfl, hend⟩

/-- With a *not* in front, one token more is taken. -/
theorem not (h : Took tokens noted rest noted') (position : Nat) :
    Took (⟨.not, position⟩ :: tokens) noted rest noted' := by
  obtain ⟨taken, faults, htaken, rfl, rfl, hend⟩ := h.exists_taken
  exact ⟨_, faults, htaken.not position, rfl, rfl, hend⟩

end Took

/-! ## Operands -/

section Operands

variable {group : Nat → Reader Part} {last : Nat} {tokens rest : List Token} {part : Part}
  {noted noted' : List SyntaxError}

/-- What an opening parenthesis leads to takes the tokens of a group. -/
def TookGroups (group : Nat → Reader Part) : Prop :=
  ∀ {position tokens noted part rest noted'},
    group position tokens noted = .done part rest noted' →
    Took (⟨.opening, position⟩ :: tokens) noted rest noted'

/-- A field takes its name and its value. -/
theorem took_fieldValue {name : String} {position : Nat}
    (h : fieldValue name position tokens noted = .done part rest noted') :
    Took (⟨.field name, position⟩ :: tokens) noted rest noted' := by
  cases tokens with
  | nil => contradiction
  | cons token tokens =>
    rw [fieldValue] at h
    cases hleaf : leaf? token.symbol with
    | none =>
      rw [hleaf] at h
      contradiction
    | some value =>
      rw [hleaf] at h
      simp only [Step.done.injEq] at h
      rw [h.2.1, h.2.2]
      exact .of_taken (.field name position hleaf) rest noted'

/-- A primary takes tokens when groups do. -/
theorem took_primary (hgroup : TookGroups group)
    (h : primary group tokens noted = .done part rest noted') :
    Took tokens noted rest noted' := by
  cases tokens with
  | nil => contradiction
  | cons token tokens =>
    rcases token with ⟨symbol, position⟩
    cases hleaf : leaf? symbol with
    | some value =>
      rw [primary_of_leaf hleaf, Step.done.injEq] at h
      rw [h.2.1, h.2.2]
      exact .of_taken (.leaf hleaf) rest noted'
    | none =>
      cases symbol with
      | opening => exact hgroup h
      | field name => exact took_fieldValue h
      | and => contradiction
      | or => contradiction
      | not => contradiction
      | closing => contradiction
      | _ => simp [leaf?] at hleaf

/-- A negation takes tokens when groups do. -/
theorem took_negation (hgroup : TookGroups group)
    (h : negation group tokens noted = .done part rest noted') :
    Took tokens noted rest noted' := by
  by_cases hnot : ∃ position after, tokens = ⟨.not, position⟩ :: after
  · obtain ⟨position, after, rfl⟩ := hnot
    rw [negation] at h
    obtain ⟨operand, rest', noted₁, hprimary, h⟩ := Step.exists_of_bind h
    by_cases hhigh : operand.height ≥ heightLimit
    · simp [hhigh] at h
    · simp only [if_neg hhigh, Step.done.injEq] at h
      rw [h.2.1, h.2.2] at hprimary
      exact (took_primary hgroup hprimary).not position
  · rw [negation] at h
    · exact took_primary hgroup h
    · intro position after heq
      exact hnot ⟨position, after, heq⟩

/-! ## Loops over operands -/

/-- A loop that ends leaves what has been taken before it. -/
theorem Took.of_finish {start : List Token} {before : List SyntaxError} {chain : Chain}
    (hbefore : Took start before tokens noted)
    (h : finish chain tokens noted = .done part rest noted') :
    Took start before rest noted' := by
  obtain ⟨rfl, rfl⟩ := rest_of_finish h
  exact hbefore

/-- Reading on in a conjunction takes further tokens; by induction on the rounds. -/
theorem took_conjunctionFrom (hgroup : TookGroups group) {start : List Token}
    {before : List SyntaxError} {rounds : List Token} {chain : Chain}
    (hbefore : Took start before tokens noted)
    (h : conjunctionFrom group last rounds chain tokens noted = .done part rest noted') :
    Took start before rest noted' := by
  induction rounds generalizing chain tokens noted with
  | nil => exact hbefore.of_finish h
  | cons round rounds ih =>
    cases tokens with
    | nil => exact hbefore.of_finish h
    | cons token tokens =>
      rcases token with ⟨symbol, position⟩
      rw [conjunctionFrom] at h
      by_cases hand : symbol = .and
      · subst hand
        rw [if_pos rfl] at h
        obtain ⟨operand, after, noted₁, hoperand, h⟩ := Step.exists_of_bind h
        obtain ⟨chain', -, h⟩ := Step.exists_of_chain h
        exact ih (hbefore.joined .and (took_negation hgroup hoperand)) h
      · rw [if_neg hand] at h
        by_cases hstarts : symbol.startsOperand = true
        · rw [if_pos hstarts] at h
          obtain ⟨operand, after, noted₁, hoperand, h⟩ := Step.exists_of_bind h
          obtain ⟨chain', -, h⟩ := Step.exists_of_chain h
          exact ih (hbefore.beside (took_negation hgroup hoperand)) h
        · rw [if_neg hstarts] at h
          exact hbefore.of_finish h

/-- A conjunction takes tokens when groups do. -/
theorem took_conjunction (hgroup : TookGroups group)
    (h : conjunction group last tokens noted = .done part rest noted') :
    Took tokens noted rest noted' := by
  rw [conjunction] at h
  obtain ⟨first, after, noted₁, hfirst, h⟩ := Step.exists_of_bind h
  exact took_conjunctionFrom hgroup (took_negation hgroup hfirst) h

/-- Reading on in a disjunction takes further tokens; by induction on the rounds. -/
theorem took_disjunctionFrom (hgroup : TookGroups group) {start : List Token}
    {before : List SyntaxError} {rounds : List Token} {chain : Chain}
    (hbefore : Took start before tokens noted)
    (h : disjunctionFrom group last rounds chain tokens noted = .done part rest noted') :
    Took start before rest noted' := by
  induction rounds generalizing chain tokens noted with
  | nil => exact hbefore.of_finish h
  | cons round rounds ih =>
    cases tokens with
    | nil => exact hbefore.of_finish h
    | cons token tokens =>
      rcases token with ⟨symbol, position⟩
      rw [disjunctionFrom] at h
      by_cases hor : symbol = .or
      · subst hor
        rw [if_pos rfl] at h
        obtain ⟨operand, after, noted₁, hoperand, h⟩ := Step.exists_of_bind h
        obtain ⟨chain', -, h⟩ := Step.exists_of_chain h
        exact ih (hbefore.joined .or (took_conjunction hgroup hoperand)) h
      · rw [if_neg hor] at h
        exact hbefore.of_finish h

/-- A disjunction takes tokens when groups do. -/
theorem took_disjunction (hgroup : TookGroups group)
    (h : disjunction group last tokens noted = .done part rest noted') :
    Took tokens noted rest noted' := by
  rw [disjunction] at h
  obtain ⟨first, after, noted₁, hfirst, h⟩ := Step.exists_of_bind h
  exact took_disjunctionFrom hgroup (took_conjunction hgroup hfirst) h

end Operands

/-! ## Groups and expressions -/

section Expressions

variable {last levels : Nat} {tokens rest : List Token} {part : Part}
  {noted noted' : List SyntaxError}

/-- The end of a group: its closing parenthesis, or the end of all tokens. -/
theorem took_close {start : List Token} {before : List SyntaxError} {position : Nat}
    {inside : Part} (hinside : Took start before tokens noted) (hends : EndsDisjunction tokens)
    (h : close inside position tokens noted = .done part rest noted') :
    Took (⟨.opening, position⟩ :: start) before rest noted' := by
  cases tokens with
  | nil =>
    rw [close, Step.done.injEq] at h
    · obtain ⟨taken, faults, htaken, rfl, rfl, -⟩ := hinside.exists_taken
      rw [← h.2.1, ← h.2.2]
      exact ⟨_, _, htaken.unclosed position, rfl, rfl, fun _ => rfl⟩
    · intro place after heq
      contradiction
  | cons token tokens =>
    rcases token with ⟨symbol, place⟩
    have hclosing : symbol = .closing := hends ⟨symbol, place⟩ rfl
    subst hclosing
    rw [close, Step.done.injEq] at h
    obtain ⟨taken, htaken, rfl, rfl⟩ :=
      hinside.exists_taken_of_ne_nil (List.cons_ne_nil _ _)
    rw [← h.2.1, ← h.2.2]
    simpa using Took.of_taken (htaken.group position place) tokens noted

/-- At every level, what an opening parenthesis leads to takes the tokens of a group. -/
theorem tookGroups_groups (last levels : Nat) : TookGroups (groups last levels) := by
  induction levels with
  | zero =>
    intro position tokens noted part rest noted' hfailed
    contradiction
  | succ levels ih =>
    intro position tokens noted part rest noted' hgroup
    rw [groups, inGroup] at hgroup
    obtain ⟨inside, after, noted₁, hinside, hclose⟩ := Step.exists_of_bind hgroup
    obtain ⟨derivation, -, hends⟩ := derived_expression hinside
    rw [expression_eq] at hinside
    exact took_close (took_disjunction ih hinside) hends hclose

/-- Every expression takes tokens, at least one, and notes the groups that are not closed. -/
theorem took_expression (h : expression last levels tokens noted = .done part rest noted') :
    Took tokens noted rest noted' := by
  rw [expression_eq] at h
  exact took_disjunction (tookGroups_groups last levels) h

end Expressions

end Reader
end TextSearch
