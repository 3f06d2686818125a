import TextSearch.Query.Parse
import TextSearch.Proofs.Query.Scanning
import Mathlib.Data.List.Forall2

/-!
# Reading two texts side by side

The reader looks at the kinds of symbols, at the heights of parts and at whether an operand is a
negation; at nothing else.  So two texts whose symbols are pairwise of the same kind are read in
step: both fail, or both give a part, and any relation that the grammar respects holds between the
two parts.

Main results:

- Theorem `Simulation.query`: related tokens are read with related results.
- Theorem `Simulation.readText`: the same of whole texts.
-/

namespace TextSearch

namespace Reader

/-! ## Steps of the reader -/

theorem ne_not_of_leaf {symbol : Symbol} {value : Query} (h : leaf? symbol = some value) :
    symbol ≠ .not := by
  rintro rfl
  simp [leaf?] at h

/-- A symbol that is a query by itself starts an operand. -/
theorem startsOperand_of_leaf {symbol : Symbol} {value : Query} (h : leaf? symbol = some value) :
    symbol.startsOperand = true := by
  cases symbol <;> simp [leaf?] at h <;> rfl

/-- A leaf is joined to its neighbour by *or* when no connective is written. -/
theorem implied_of_leaf {symbol : Symbol} {value : Query} (h : leaf? symbol = some value) :
    Connective.implied value = .or := by
  cases symbol <;> simp [leaf?] at h <;> subst h <;> rfl

/-- The reader takes a leaf as it stands, a part of height one, and notes nothing. -/
theorem primary_of_leaf {group : Nat → Reader Part} {symbol : Symbol} {value : Query}
    (h : leaf? symbol = some value) (position : Nat) (rest : List Token)
    (noted : List SyntaxError) :
    primary group (⟨symbol, position⟩ :: rest) noted = .done ⟨value, 1⟩ rest noted := by
  cases symbol <;> simp [leaf?] at h <;> subst h <;> rfl

/-- Without *not* in front, a negation is just a primary. -/
theorem negation_of_ne_not {group : Nat → Reader Part} {symbol : Symbol} (h : symbol ≠ .not)
    (position : Nat) (rest : List Token) (noted : List SyntaxError) :
    negation group (⟨symbol, position⟩ :: rest) noted =
      primary group (⟨symbol, position⟩ :: rest) noted := by
  cases symbol <;> first | rfl | contradiction

/-- A group that meets its closing parenthesis ends there, with nothing noted. -/
theorem close_of_closing {token : Token} (h : token.symbol = .closing) (part : Part)
    (position : Nat) (rest : List Token) (noted : List SyntaxError) :
    close part position (token :: rest) noted = .done part rest noted := by
  rcases token with ⟨symbol, place⟩
  dsimp only at h
  rw [h, close]

/-- A group that meets another token first is reported as unclosed, and the token is left for the
rules above. -/
theorem close_of_ne_closing {token : Token} (h : token.symbol ≠ .closing) (part : Part)
    (position : Nat) (rest : List Token) (noted : List SyntaxError) :
    close part position (token :: rest) noted =
      .done part (token :: rest) (.unclosedGroup position :: noted) := by
  rw [close]
  intro place rest' heq
  rw [List.cons.injEq] at heq
  apply h
  rw [heq.1]

/-- Read a whole text. -/
def readText (raw : String) : Step Part :=
  match (tokens raw).getLast? with
  | none => .failed .emptyQuery []
  | some last => query last.position (tokens raw) []

/-- Parsing is reading the whole text, with the raw string as one term where the reading fails. -/
theorem parse_eq (raw : String) :
    parse raw =
      match readText raw with
      | .done part _ noted => ⟨part.tree, noted.reverse⟩
      | .failed fault noted => ⟨.rawTerm raw, (fault :: noted).reverse⟩ := by
  rw [parse, readText]
  cases (tokens raw).getLast? with
  | none => rfl
  | some last => rfl

end Reader

/-! ## Relations that reading respects -/

/-- Two symbols that the grammar does not tell apart. -/
inductive Symbol.SameKind : Symbol → Symbol → Prop
  | leaf {a b : Symbol} {value value' : Query} :
    Reader.leaf? a = some value → Reader.leaf? b = some value' → SameKind a b
  | field (name name' : String) : SameKind (.field name) (.field name')
  | and : SameKind .and .and
  | or : SameKind .or .or
  | not : SameKind .not .not
  | opening : SameKind .opening .opening
  | closing : SameKind .closing .closing

/-- A relation between symbols and one between parts that are kept by every rule of the grammar. -/
structure Simulation (alike : Symbol → Symbol → Prop) (agree : Part → Part → Prop) : Prop where
  sameKind : ∀ {a b}, alike a b → a.SameKind b
  leaf : ∀ {a b value value'}, alike a b → Reader.leaf? a = some value →
    Reader.leaf? b = some value' → agree ⟨value, 1⟩ ⟨value', 1⟩
  field : ∀ {name name' a b value value'}, alike (.field name) (.field name') → alike a b →
    Reader.leaf? a = some value → Reader.leaf? b = some value' →
    agree ⟨.field name value, 2⟩ ⟨.field name' value', 2⟩
  not : ∀ {a b}, agree a b → agree ⟨.not a.tree, a.height + 1⟩ ⟨.not b.tree, b.height + 1⟩
  join : ∀ {a b a' b'} (connective : Connective), agree a b → agree a' b' →
    agree ⟨connective.join a.tree a'.tree, max a.height a'.height + 1⟩
      ⟨connective.join b.tree b'.tree, max b.height b'.height + 1⟩
  height : ∀ {a b}, agree a b → a.height = b.height
  implied : ∀ {a b}, agree a b → Connective.implied a.tree = Connective.implied b.tree

/-- Tokens with pairwise related symbols. -/
abbrev TokensAlike (alike : Symbol → Symbol → Prop) : List Token → List Token → Prop :=
  List.Forall₂ fun token token' => alike token.symbol token'.symbol

/-- Two steps that both give related parts and leave related tokens, or both end the reading. -/
inductive Step.Related (alike : Symbol → Symbol → Prop) (agree : Part → Part → Prop) :
    Step Part → Step Part → Prop
  | done {part part' : Part} {rest rest' : List Token} (noted noted' : List SyntaxError) :
    agree part part' → TokensAlike alike rest rest' →
    Related alike agree (.done part rest noted) (.done part' rest' noted')
  | failed {fault fault' : SyntaxError} (noted noted' : List SyntaxError) :
    fault.isFatal = true → fault'.isFatal = true →
    Related alike agree (.failed fault noted) (.failed fault' noted')

/-- Two readers that take related steps on related tokens. -/
def Reader.Related (alike : Symbol → Symbol → Prop) (agree : Part → Part → Prop)
    (reader reader' : Reader Part) : Prop :=
  ∀ {tokens tokens' : List Token} (noted noted' : List SyntaxError),
    TokensAlike alike tokens tokens' →
    Step.Related alike agree (reader tokens noted) (reader' tokens' noted')

/-- Two results of work on chains. -/
inductive ChainResult {α : Type} (agree : α → α → Prop) :
    Except SyntaxError α → Except SyntaxError α → Prop
  | ok {a b : α} : agree a b → ChainResult agree (.ok a) (.ok b)
  | error {fault fault' : SyntaxError} : fault.isFatal = true → fault'.isFatal = true →
    ChainResult agree (.error fault) (.error fault')

/-- Two chains with the same connective and pairwise related operands. -/
structure Chain.Related (agree : Part → Part → Prop) (chain chain' : Chain) : Prop where
  connective : chain.connective = chain'.connective
  run : List.Forall₂ agree chain.run chain'.run

section Sequence

variable {alike : Symbol → Symbol → Prop} {agree : Part → Part → Prop}

/-- What reads on after related steps takes related steps. -/
theorem Step.Related.bind {next next' : Part → Reader Part}
    (hnext : ∀ {part part'}, agree part part' →
      Reader.Related alike agree (next part) (next' part'))
    {step step' : Step Part} : Step.Related alike agree step step' →
    Step.Related alike agree
      (match step with
        | .failed fault noted => .failed fault noted
        | .done part rest noted => next part rest noted)
      (match step' with
        | .failed fault noted => .failed fault noted
        | .done part rest noted => next' part rest noted) := by
  intro h
  cases h with
  | done noted noted' hpart hrest => exact hnext hpart noted noted' hrest
  | failed noted noted' hfault hfault' => exact Step.Related.failed noted noted' hfault hfault'

/-- What reads on with related results of work on chains takes related steps. -/
theorem ChainResult.bind {next next' : Chain → Step Part} (noted noted' : List SyntaxError)
    (hnext : ∀ {chain chain'}, chain.Related agree chain' →
      Step.Related alike agree (next chain) (next' chain'))
    {result result' : Except SyntaxError Chain} :
    ChainResult (Chain.Related agree) result result' →
    Step.Related alike agree
      (match result with
        | .error fault => .failed fault noted
        | .ok chain => next chain)
      (match result' with
        | .error fault => .failed fault noted'
        | .ok chain => next' chain) := by
  intro h
  cases h with
  | ok hsame => exact hnext hsame
  | error hfault hfault' => exact Step.Related.failed noted noted' hfault hfault'

end Sequence

namespace Simulation

variable {alike : Symbol → Symbol → Prop} {agree : Part → Part → Prop}

/-! ## Chains -/

/-- Related runs are balanced into related parts, and an empty run into nothing on both sides. -/
theorem balanced (sim : Simulation alike agree) (connective : Connective) {run run' : List Part}
    (h : List.Forall₂ agree run run') :
    Option.Rel agree (TextSearch.balanced connective run)
      (TextSearch.balanced connective run') := by
  induction hlength : run.length using Nat.strong_induction_on generalizing run run' with
  | _ n ih =>
    cases h with
    | nil =>
      rw [TextSearch.balanced]
      exact Option.Rel.none
    | @cons first first' rest rest' hfirst hrest =>
      cases hrest with
      | nil =>
        rw [TextSearch.balanced, TextSearch.balanced]
        exact Option.Rel.some hfirst
      | @cons second second' rest rest' hsecond hrest =>
        have hwhole := List.Forall₂.cons hfirst (List.Forall₂.cons hsecond hrest)
        have hlengths := hrest.length_eq
        rw [List.length_cons, List.length_cons] at hlength
        rw [TextSearch.balanced, TextSearch.balanced]
        simp only [List.length_cons, ← hlengths]
        have hleft := ih _ (by simp; omega)
          (List.forall₂_take ((rest.length + 1 + 1 + 1) / 2) hwhole) rfl
        have hright := ih _ (by simp; omega)
          (List.forall₂_drop ((rest.length + 1 + 1 + 1) / 2) hwhole) rfl
        revert hleft hright
        generalize TextSearch.balanced connective (List.take _ _) = left
        generalize TextSearch.balanced connective (List.drop _ _) = right
        generalize TextSearch.balanced connective (List.take _ _) = left'
        generalize TextSearch.balanced connective (List.drop _ _) = right'
        intro hleft hright
        cases hleft with
        | none => exact Option.Rel.none
        | some hleft =>
          cases hright with
          | none => exact Option.Rel.none
          | some hright => exact Option.Rel.some (sim.join connective hleft hright)

/-- Related chains collapse alike: into related parts, or both past the height limit. -/
theorem collapse (sim : Simulation alike agree) {chain chain' : Chain}
    (h : chain.Related agree chain') : ChainResult agree chain.collapse chain'.collapse := by
  rw [Chain.collapse, Chain.collapse, ← h.connective]
  have hbalanced := sim.balanced (chain.connective.getD .or) (List.rel_reverse h.run)
  revert hbalanced
  generalize TextSearch.balanced _ chain.run.reverse = whole
  generalize TextSearch.balanced _ chain'.run.reverse = whole'
  intro hbalanced
  cases hbalanced with
  | none => exact ChainResult.error rfl rfl
  | @some part part' hpart =>
    simp only [← sim.height hpart]
    split
    · exact ChainResult.error rfl rfl
    · exact ChainResult.ok hpart

/-- Pushing related operands keeps two chains related, or breaks the height limit in both. -/
theorem push (sim : Simulation alike agree) {chain chain' : Chain}
    (h : chain.Related agree chain') (connective : Connective) {operand operand' : Part}
    (hoperand : agree operand operand') (position position' : Nat) :
    ChainResult (Chain.Related agree) (chain.push connective operand position)
      (chain'.push connective operand' position') := by
  unfold Chain.push
  rw [← h.connective]
  cases chain.connective with
  | none => exact ChainResult.ok ⟨rfl, List.Forall₂.cons hoperand h.run⟩
  | some current =>
    by_cases hsame : current = connective
    · simp only [if_pos hsame]
      exact ChainResult.ok ⟨rfl, List.Forall₂.cons hoperand h.run⟩
    · simp only [if_neg hsame]
      have hcollapse := sim.collapse h
      revert hcollapse
      generalize chain.collapse = result
      generalize chain'.collapse = result'
      intro hcollapse
      cases hcollapse with
      | error hfault hfault' => exact ChainResult.error hfault hfault'
      | ok hpart =>
        exact ChainResult.ok
          ⟨rfl, List.Forall₂.cons hoperand (List.Forall₂.cons hpart List.Forall₂.nil)⟩

/-- Collapsing at the end of a reader gives related steps. -/
theorem finish (sim : Simulation alike agree) {chain chain' : Chain}
    (h : chain.Related agree chain') :
    Reader.Related alike agree (Reader.finish chain) (Reader.finish chain') := by
  intro tokens tokens' noted noted' htokens
  rw [Reader.finish, Reader.finish]
  have hcollapse := sim.collapse h
  revert hcollapse
  generalize chain.collapse = result
  generalize chain'.collapse = result'
  intro hcollapse
  cases hcollapse with
  | error hfault hfault' => exact Step.Related.failed _ _ hfault hfault'
  | ok hpart => exact Step.Related.done _ _ hpart htokens

theorem related_start {part part' : Part} (h : agree part part') (position position' : Nat) :
    (Chain.start part position).Related agree (Chain.start part' position') :=
  ⟨rfl, List.Forall₂.cons h List.Forall₂.nil⟩

/-! ## Operands -/

/-- The value of a field is read alike on both sides. -/
theorem fieldValue (sim : Simulation alike agree) {name name' : String}
    (h : alike (.field name) (.field name')) (position position' : Nat) :
    Reader.Related alike agree (Reader.fieldValue name position)
      (Reader.fieldValue name' position') := by
  intro tokens tokens' noted noted' htokens
  cases htokens with
  | nil => exact Step.Related.failed _ _ rfl rfl
  | @cons token token' rest rest' htoken hrest =>
    rw [Reader.fieldValue, Reader.fieldValue]
    have hkind := sim.sameKind htoken
    rcases token with ⟨symbol, place⟩
    rcases token' with ⟨symbol', place'⟩
    cases hkind with
    | leaf hleaf hleaf' =>
      simp only [hleaf, hleaf']
      exact Step.Related.done _ _ (sim.field h htoken hleaf hleaf') hrest
    | _ => exact Step.Related.failed _ _ rfl rfl

variable {group group' : Nat → Reader Part}

/-- Primaries are read alike when groups are. -/
theorem primary (sim : Simulation alike agree)
    (hgroup : ∀ position position',
      Reader.Related alike agree (group position) (group' position')) :
    Reader.Related alike agree (Reader.primary group) (Reader.primary group') := by
  intro tokens tokens' noted noted' htokens
  cases htokens with
  | nil => exact Step.Related.failed _ _ rfl rfl
  | @cons token token' rest rest' htoken hrest =>
    have hkind := sim.sameKind htoken
    rcases token with ⟨symbol, place⟩
    rcases token' with ⟨symbol', place'⟩
    cases hkind with
    | leaf hleaf hleaf' =>
      rw [Reader.primary_of_leaf hleaf, Reader.primary_of_leaf hleaf']
      exact Step.Related.done _ _ (sim.leaf htoken hleaf hleaf') hrest
    | field name name' => exact sim.fieldValue htoken place place' noted noted' hrest
    | opening => exact hgroup place place' noted noted' hrest
    | _ => exact Step.Related.failed _ _ rfl rfl

/-- Negations are read alike when groups are. -/
theorem negation (sim : Simulation alike agree)
    (hgroup : ∀ position position',
      Reader.Related alike agree (group position) (group' position')) :
    Reader.Related alike agree (Reader.negation group) (Reader.negation group') := by
  intro tokens tokens' noted noted' htokens
  have hprimary := sim.primary hgroup noted noted' htokens
  cases htokens with
  | nil => exact hprimary
  | @cons token token' rest rest' htoken hrest =>
    have hkind := sim.sameKind htoken
    rcases token with ⟨symbol, place⟩
    rcases token' with ⟨symbol', place'⟩
    cases hkind with
    | not =>
      rw [Reader.negation, Reader.negation]
      refine Step.Related.bind ?_ (sim.primary hgroup noted noted' hrest)
      intro operand operand' hoperand after after' noted noted' hafter
      rw [← sim.height hoperand]
      split
      · exact Step.Related.failed _ _ rfl rfl
      · have hnot := sim.not hoperand
        rw [← sim.height hoperand] at hnot
        exact Step.Related.done _ _ hnot hafter
    | leaf hleaf hleaf' =>
      rw [Reader.negation_of_ne_not (Reader.ne_not_of_leaf hleaf),
        Reader.negation_of_ne_not (Reader.ne_not_of_leaf hleaf')]
      exact hprimary
    | _ => exact hprimary

/-! ## Loops over operands -/

/-- Related tokens both begin an operand or both do not. -/
theorem startsOperand (sim : Simulation alike agree) {a b : Symbol} (h : alike a b) :
    a.startsOperand = b.startsOperand := by
  cases sim.sameKind h with
  | leaf hleaf hleaf' =>
    rw [Reader.startsOperand_of_leaf hleaf, Reader.startsOperand_of_leaf hleaf']
  | _ => rfl

/-- Related symbols that begin no operand are the same. -/
theorem eq_iff (sim : Simulation alike agree) {a b symbol : Symbol} (h : alike a b)
    (hsymbol : symbol.startsOperand = false) : a = symbol ↔ b = symbol := by
  cases sim.sameKind h with
  | leaf hleaf hleaf' =>
    constructor
    · rintro rfl
      rw [Reader.startsOperand_of_leaf hleaf] at hsymbol
      contradiction
    · rintro rfl
      rw [Reader.startsOperand_of_leaf hleaf'] at hsymbol
      contradiction
  | field name name' =>
    constructor
    · rintro rfl
      contradiction
    · rintro rfl
      contradiction
  | _ => exact Iff.rfl

/-- From any round and any related chains, conjunctions are read alike when groups are; by induction
on the rounds. -/
theorem conjunctionFrom (sim : Simulation alike agree)
    (hgroup : ∀ position position',
      Reader.Related alike agree (group position) (group' position'))
    (last last' : Nat) {rounds rounds' : List Token} (hrounds : TokensAlike alike rounds rounds')
    {chain chain' : Chain} (hchain : chain.Related agree chain') :
    Reader.Related alike agree (Reader.conjunctionFrom group last rounds chain)
      (Reader.conjunctionFrom group' last' rounds' chain') := by
  induction hrounds generalizing chain chain' with
  | nil => exact sim.finish hchain
  | @cons round round' rounds rounds' _ hrounds ih =>
    intro tokens tokens' noted noted' htokens
    cases htokens with
    | nil => exact sim.finish hchain noted noted' List.Forall₂.nil
    | @cons token token' rest rest' htoken hrest =>
      rw [Reader.conjunctionFrom, Reader.conjunctionFrom]
      by_cases hand : token.symbol = .and
      · rw [if_pos hand, if_pos ((sim.eq_iff htoken rfl).mp hand)]
        refine Step.Related.bind ?_ (sim.negation hgroup noted noted' hrest)
        intro operand operand' hoperand after after' noted noted' hafter
        refine ChainResult.bind noted noted' ?_ (sim.push hchain .and hoperand _ _)
        intro next next' hnext
        exact ih hnext noted noted' hafter
      · rw [if_neg hand, if_neg (mt (sim.eq_iff htoken rfl).mpr hand)]
        rw [← sim.startsOperand htoken]
        have htokens : TokensAlike alike (token :: rest) (token' :: rest') := .cons htoken hrest
        split
        · refine Step.Related.bind ?_ (sim.negation hgroup noted noted' htokens)
          intro operand operand' hoperand after after' noted noted' hafter
          rw [← sim.implied hoperand]
          refine ChainResult.bind noted noted' ?_ (sim.push hchain _ hoperand _ _)
          intro next next' hnext
          exact ih hnext noted noted' hafter
        · exact sim.finish hchain noted noted' htokens

/-- Conjunctions are read alike when groups are. -/
theorem conjunction (sim : Simulation alike agree)
    (hgroup : ∀ position position',
      Reader.Related alike agree (group position) (group' position')) (last last' : Nat) :
    Reader.Related alike agree (Reader.conjunction group last)
      (Reader.conjunction group' last') := by
  intro tokens tokens' noted noted' htokens
  rw [Reader.conjunction, Reader.conjunction]
  refine Step.Related.bind ?_ (sim.negation hgroup noted noted' htokens)
  intro first first' hfirst rest rest' noted noted' hrest
  exact sim.conjunctionFrom hgroup last last' hrest (related_start hfirst _ _) noted noted' hrest

/-- From any round and any related chains, disjunctions are read alike when groups are; by induction
on the rounds. -/
theorem disjunctionFrom (sim : Simulation alike agree)
    (hgroup : ∀ position position',
      Reader.Related alike agree (group position) (group' position'))
    (last last' : Nat) {rounds rounds' : List Token} (hrounds : TokensAlike alike rounds rounds')
    {chain chain' : Chain} (hchain : chain.Related agree chain') :
    Reader.Related alike agree (Reader.disjunctionFrom group last rounds chain)
      (Reader.disjunctionFrom group' last' rounds' chain') := by
  induction hrounds generalizing chain chain' with
  | nil => exact sim.finish hchain
  | @cons round round' rounds rounds' _ hrounds ih =>
    intro tokens tokens' noted noted' htokens
    cases htokens with
    | nil => exact sim.finish hchain noted noted' List.Forall₂.nil
    | @cons token token' rest rest' htoken hrest =>
      rw [Reader.disjunctionFrom, Reader.disjunctionFrom]
      by_cases hor : token.symbol = .or
      · rw [if_pos hor, if_pos ((sim.eq_iff htoken rfl).mp hor)]
        refine Step.Related.bind ?_ (sim.conjunction hgroup last last' noted noted' hrest)
        intro operand operand' hoperand after after' noted noted' hafter
        refine ChainResult.bind noted noted' ?_ (sim.push hchain .or hoperand _ _)
        intro next next' hnext
        exact ih hnext noted noted' hafter
      · rw [if_neg hor, if_neg (mt (sim.eq_iff htoken rfl).mpr hor)]
        exact sim.finish hchain noted noted' (List.Forall₂.cons htoken hrest)

/-- Disjunctions are read alike when groups are. -/
theorem disjunction (sim : Simulation alike agree)
    (hgroup : ∀ position position',
      Reader.Related alike agree (group position) (group' position')) (last last' : Nat) :
    Reader.Related alike agree (Reader.disjunction group last)
      (Reader.disjunction group' last') := by
  intro tokens tokens' noted noted' htokens
  rw [Reader.disjunction, Reader.disjunction]
  refine Step.Related.bind ?_ (sim.conjunction hgroup last last' noted noted' htokens)
  intro first first' hfirst rest rest' noted noted' hrest
  exact sim.disjunctionFrom hgroup last last' hrest (related_start hfirst _ _) noted noted' hrest

/-! ## Groups and whole queries -/

theorem close (sim : Simulation alike agree) {part part' : Part} (h : agree part part')
    (position position' : Nat) :
    Reader.Related alike agree (Reader.close part position) (Reader.close part' position') := by
  intro tokens tokens' noted noted' htokens
  cases htokens with
  | nil => exact Step.Related.done _ _ h List.Forall₂.nil
  | @cons token token' rest rest' htoken hrest =>
    by_cases hclosing : token.symbol = .closing
    · have hclosing' := (sim.eq_iff htoken rfl).mp hclosing
      rw [Reader.close_of_closing hclosing, Reader.close_of_closing hclosing']
      exact Step.Related.done _ _ h hrest
    · have hclosing' := mt (sim.eq_iff htoken rfl).mpr hclosing
      rw [Reader.close_of_ne_closing hclosing, Reader.close_of_ne_closing hclosing']
      exact Step.Related.done _ _ h (List.Forall₂.cons htoken hrest)

/-- Expressions are read alike with any number of levels left; by induction on the levels. -/
theorem expression (sim : Simulation alike agree) (last last' levels : Nat) :
    Reader.Related alike agree (Reader.expression last levels)
      (Reader.expression last' levels) := by
  induction levels with
  | zero =>
    apply sim.disjunction
    intro position position' tokens tokens' noted noted' htokens
    exact Step.Related.failed _ _ rfl rfl
  | succ levels ih =>
    apply sim.disjunction
    intro position position' tokens tokens' noted noted' htokens
    rw [Reader.inGroup, Reader.inGroup]
    refine Step.Related.bind ?_ (ih noted noted' htokens)
    intro part part' hpart rest rest' noted noted' hrest
    exact sim.close hpart position position' noted noted' hrest

/-- From any round and any related chains, whole queries are read alike. -/
theorem queryFrom (sim : Simulation alike agree) (last last' : Nat) {rounds rounds' : List Token}
    (hrounds : TokensAlike alike rounds rounds') {chain chain' : Chain}
    (hchain : chain.Related agree chain') :
    Reader.Related alike agree (Reader.queryFrom last rounds chain)
      (Reader.queryFrom last' rounds' chain') := by
  induction hrounds generalizing chain chain' with
  | nil => exact sim.finish hchain
  | @cons round round' rounds rounds' _ hrounds ih =>
    intro tokens tokens' noted noted' htokens
    cases htokens with
    | nil => exact sim.finish hchain noted noted' List.Forall₂.nil
    | @cons token token' rest rest' htoken hrest =>
      rw [Reader.queryFrom, Reader.queryFrom]
      by_cases hclosing : token.symbol = .closing
      · rw [if_pos hclosing, if_pos ((sim.eq_iff htoken rfl).mp hclosing)]
        exact ih hchain _ _ hrest
      · rw [if_neg hclosing, if_neg (mt (sim.eq_iff htoken rfl).mpr hclosing)]
        have htokens : TokensAlike alike (token :: rest) (token' :: rest') := .cons htoken hrest
        refine Step.Related.bind ?_ (sim.expression last last' heightLimit noted noted' htokens)
        intro operand operand' hoperand after after' noted noted' hafter
        rw [← sim.implied hoperand]
        refine ChainResult.bind noted noted' ?_ (sim.push hchain _ hoperand _ _)
        intro next next' hnext
        exact ih hnext noted noted' hafter

/-- Related tokens are read with related results. -/
theorem query (sim : Simulation alike agree) (last last' : Nat) :
    Reader.Related alike agree (Reader.query last) (Reader.query last') := by
  intro tokens tokens' noted noted' htokens
  rw [Reader.query, Reader.query]
  refine Step.Related.bind ?_ (sim.expression last last' heightLimit noted noted' htokens)
  intro first first' hfirst rest rest' noted noted' hrest
  exact sim.queryFrom last last' hrest (related_start hfirst _ _) noted noted' hrest

/-- Texts with related symbols are read with related results. -/
theorem readText (sim : Simulation alike agree) {raw raw' : String}
    (h : List.Forall₂ alike (Symbol.scan raw.toList) (Symbol.scan raw'.toList)) :
    Step.Related alike agree (Reader.readText raw) (Reader.readText raw') := by
  have htokens : TokensAlike alike (tokens raw) (tokens raw') := by
    rw [← map_symbol_tokens, ← map_symbol_tokens, List.forall₂_map_left_iff,
      List.forall₂_map_right_iff] at h
    exact h
  have hlast : (tokens raw).getLast? = none ↔ (tokens raw').getLast? = none := by
    rw [List.getLast?_eq_none_iff, List.getLast?_eq_none_iff]
    constructor
    · intro hnil
      rw [hnil] at htokens
      exact List.forall₂_nil_left_iff.mp htokens
    · intro hnil
      rw [hnil] at htokens
      exact List.forall₂_nil_right_iff.mp htokens
  unfold Reader.readText
  cases hfirst : (tokens raw).getLast? with
  | none =>
    rw [hlast.mp hfirst]
    exact Step.Related.failed _ _ rfl rfl
  | some token =>
    obtain ⟨token', htoken'⟩ := Option.ne_none_iff_exists'.mp
      (mt hlast.mpr (by rw [hfirst]; simp))
    rw [htoken']
    exact sim.query token.position token'.position [] [] htokens

end Simulation
end TextSearch
