import TextSearch.Proofs.Query.Operands
import TextSearch.Proofs.Query.Simulation
import TextSearch.Proofs.Search.Satisfaction

/-!
# Runs of operands and their meaning

A run of operands under one connective becomes a balanced tree, and a new level begins only where
the connective changes.  A plainer reader joins every operand at once to the tree of all operands
before it, and does not look at heights.  The two readers give different trees, but the trees ask
every index for the same documents.

The invariant that carries the proof is `Chain.StandsFor`: the run of a chain and the tree that the
plain reader has put together so far find the same documents.

Main results:

- Theorem `mem_evaluate_balanced`: a balanced tree finds what all of its operands find, or what one
  of them finds.
- Theorems `Chain.StandsFor.collapse` and `Chain.StandsFor.push`: what the work on chains means.
- Theorem `Sequential.query_agrees`: the two readers note the same faults and give trees with one
  meaning, unless a limit ends the reading.
- Theorem `evaluate_parse_eq_sequentially`: the same of whole queries.
-/

namespace TextSearch

/-! ## Trees with one meaning -/

namespace Connective

/-- A slot is found by all operands of a conjunction, or by one operand of a disjunction. -/
def Finds (connective : Connective) (index : Index) (slot : Slot) (trees : List Query) : Prop :=
  match connective with
  | and => ∀ tree ∈ trees, slot ∈ index.evaluate tree
  | or => ∃ tree ∈ trees, slot ∈ index.evaluate tree

variable {connective : Connective} {index : Index} {slot : Slot}

theorem finds_singleton {tree : Query} :
    connective.Finds index slot [tree] ↔ slot ∈ index.evaluate tree := by
  cases connective <;> simp [Finds]

/-- Two runs together find what both find, or what either finds, as the connective says. -/
theorem finds_append {xs ys : List Query} :
    connective.Finds index slot (xs ++ ys) ↔
      match connective with
      | and => connective.Finds index slot xs ∧ connective.Finds index slot ys
      | or => connective.Finds index slot xs ∨ connective.Finds index slot ys := by
  cases connective with
  | and => simp only [Finds, List.forall_mem_append]
  | or => simp only [Finds, List.mem_append, or_and_right, exists_or]

/-- What is joined finds what the two sides find, each of which may stand for a run. -/
theorem mem_evaluate_join {left right : Query} {xs ys : List Query}
    (hleft : slot ∈ index.evaluate left ↔ connective.Finds index slot xs)
    (hright : slot ∈ index.evaluate right ↔ connective.Finds index slot ys) :
    slot ∈ index.evaluate (connective.join left right) ↔
      connective.Finds index slot (xs ++ ys) := by
  rw [finds_append]
  cases connective with
  | and => rw [join, Index.mem_evaluate_and, hleft, hright]
  | or => rw [join, Index.evaluate, SlotSet.mem_union, hleft, hright]

@[simp]
theorem implied_join (left right : Query) : implied (connective.join left right) = or := by
  cases connective <;> rfl

end Connective

/-- The trees ask every index for the same documents, and a neighbour is joined to them by the same
connective. -/
structure Query.SameMeaning (a b : Query) : Prop where
  evaluate : ∀ index : Index, index.evaluate a = index.evaluate b
  implied : Connective.implied a = Connective.implied b

namespace Query.SameMeaning

theorem refl (tree : Query) : tree.SameMeaning tree :=
  ⟨fun _ => rfl, rfl⟩

theorem not {a b : Query} (h : a.SameMeaning b) : (Query.not a).SameMeaning (.not b) where
  evaluate := by
    intro index
    rw [Index.evaluate, Index.evaluate, h.evaluate]
  implied := rfl

end Query.SameMeaning

/-! ## Chains -/

section Chains

/-- A balanced tree finds what all of its operands find, or what one of them finds. -/
theorem mem_evaluate_balanced {connective : Connective} {run : List Part} {part : Part}
    (h : balanced connective run = some part) (index : Index) (slot : Slot) :
    slot ∈ index.evaluate part.tree ↔
      connective.Finds index slot (run.map Part.tree) := by
  fun_induction balanced connective run generalizing part with
  | case1 => contradiction
  | case2 single =>
    rw [← Option.some.inj h]
    exact Connective.finds_singleton.symm
  | case3 first second rest whole half left right hright hleft ihLeft =>
    rename_i ihRight
    have hsplit : (first :: second :: rest).map Part.tree =
        (whole.take half).map Part.tree ++ (whole.drop half).map Part.tree := by
      rw [← List.map_append, List.take_append_drop]
    rw [← Option.some.inj h, hsplit]
    exact Connective.mem_evaluate_join (ihLeft hleft) (ihRight hright)
  | case4 => contradiction

/-- A balanced tree of two operands or more is no negation, so its neighbour is joined by *or*. -/
theorem implied_of_balanced {connective : Connective} {run : List Part} {part : Part}
    (h : balanced connective run = some part) (hlength : 2 ≤ run.length) :
    Connective.implied part.tree = .or := by
  fun_induction balanced connective run with
  | case1 => contradiction
  | case2 => simp at hlength
  | case3 =>
    rw [← Option.some.inj h]
    exact Connective.implied_join _ _
  | case4 => contradiction

/-- The operands of the chain mean together what the tree means: a single operand by itself, and
several by their connective. -/
inductive Chain.StandsFor : Chain → Query → Prop
  | alone {part : Part} {tree : Query} (position : Nat) :
    part.tree.SameMeaning tree → StandsFor ⟨none, [part], position⟩ tree
  | joined {connective : Connective} {run : List Part} {tree : Query} (position : Nat) :
    2 ≤ run.length → Connective.implied tree = .or →
    (∀ index slot, slot ∈ index.evaluate tree ↔
      connective.Finds index slot (run.reverse.map Part.tree)) →
    StandsFor ⟨some connective, run, position⟩ tree

variable {chain : Chain} {tree : Query}

/-- The operands of the chain become one tree with their meaning, unless this tree is too high. -/
theorem Chain.StandsFor.collapse (h : chain.StandsFor tree) :
    (∃ part, chain.collapse = .ok part ∧ part.tree.SameMeaning tree) ∨
      ∃ position, chain.collapse = .error (.nestingTooDeep position) := by
  have hpart : ∃ part, balanced (chain.connective.getD .or) chain.run.reverse = some part ∧
      part.tree.SameMeaning tree := by
    cases h with
    | @alone part tree position hsame =>
      refine ⟨part, ?_, hsame⟩
      simp [balanced]
    | @joined connective run tree position hlength himplied hfinds =>
      have hreverse : 2 ≤ run.reverse.length := by
        simpa using hlength
      have hne : run.reverse ≠ [] := by
        intro hnil
        rw [hnil] at hreverse
        simp at hreverse
      obtain ⟨part, hpart⟩ := exists_balanced connective hne
      refine ⟨part, hpart, ?_, ?_⟩
      · intro index
        apply SlotSet.ext
        intro slot
        rw [mem_evaluate_balanced hpart, hfinds]
      · rw [implied_of_balanced hpart hreverse, himplied]
  obtain ⟨part, hbalanced, hsame⟩ := hpart
  rw [Chain.collapse, hbalanced]
  by_cases hhigh : part.height > heightLimit
  · right
    exact ⟨chain.position, by simp [hhigh]⟩
  · left
    exact ⟨part, by simp [hhigh], hsame⟩

/-- Two operands stand for the tree that joins them. -/
theorem Chain.standsFor_pair (connective : Connective) {left right : Part} {tree tree' : Query}
    (hleft : left.tree.SameMeaning tree) (hright : right.tree.SameMeaning tree')
    (position : Nat) :
    Chain.StandsFor ⟨some connective, [right, left], position⟩ (connective.join tree tree') := by
  apply Chain.StandsFor.joined
  · simp
  · exact Connective.implied_join tree tree'
  · intro index slot
    have hfirst : slot ∈ index.evaluate tree ↔ connective.Finds index slot [left.tree] := by
      rw [Connective.finds_singleton, hleft.evaluate]
    have hsecond : slot ∈ index.evaluate tree' ↔ connective.Finds index slot [right.tree] := by
      rw [Connective.finds_singleton, hright.evaluate]
    exact Connective.mem_evaluate_join hfirst hsecond

/-- One more operand is joined to what the chain stands for, unless the operands before it become a
tree that is too high. -/
theorem Chain.StandsFor.push (h : chain.StandsFor tree) (connective : Connective)
    {operand : Part} {tree' : Query} (hoperand : operand.tree.SameMeaning tree')
    (position : Nat) :
    (∃ next, chain.push connective operand position = .ok next ∧
      next.StandsFor (connective.join tree tree')) ∨
    ∃ position', chain.push connective operand position =
      .error (.nestingTooDeep position') := by
  have hcollapse := h.collapse
  cases h with
  | @alone part tree place hsame =>
    left
    exact ⟨_, rfl, Chain.standsFor_pair connective hsame hoperand position⟩
  | @joined current run tree place hlength himplied hfinds =>
    by_cases hsame : current = connective
    · subst hsame
      left
      refine ⟨⟨some current, operand :: run, position⟩, by simp [Chain.push], ?_⟩
      apply Chain.StandsFor.joined
      · simp only [List.length_cons]
        omega
      · exact Connective.implied_join tree tree'
      · intro index slot
        have hlast : slot ∈ index.evaluate tree' ↔
            current.Finds index slot ([operand].map Part.tree) := by
          rw [List.map_singleton, Connective.finds_singleton, hoperand.evaluate]
        rw [List.reverse_cons, List.map_append]
        exact Connective.mem_evaluate_join (hfinds index slot) hlast
    · simp only [Chain.push, if_neg hsame]
      rcases hcollapse with ⟨part, hpart, hmeaning⟩ | ⟨place', hfault⟩
      · left
        rw [hpart]
        exact ⟨_, rfl, Chain.standsFor_pair connective hmeaning hoperand position⟩
      · right
        rw [hfault]
        exact ⟨place', rfl⟩

end Chains

/-! ## Reading operand by operand -/

namespace Sequential

/-- The value of a field whose name was read at the given position. -/
def fieldValue (name : String) (position : Nat) : Reader Query
  | [], noted => .failed (.missingFieldValue name position) noted
  | token :: rest, noted =>
    match Reader.leaf? token.symbol with
    | some value => .done (.field name value) rest noted
    | none => .failed (.missingFieldValue name position) noted

/-- A primary.  What an opening parenthesis leads to is a parameter. -/
def primary (group : Nat → Reader Query) : Reader Query
  | [], noted => .failed .unexpectedEnd noted
  | token :: rest, noted =>
    match token.symbol with
    | .opening => group token.position rest noted
    | .field name => fieldValue name token.position rest noted
    | symbol =>
      match Reader.leaf? symbol with
      | some value => .done value rest noted
      | none => .failed (.unexpectedToken symbol.describe token.position) noted

/-- A primary, perhaps negated. -/
def negation (group : Nat → Reader Query) : Reader Query
  | ⟨.not, _⟩ :: rest, noted =>
    match primary group rest noted with
    | .failed fault noted => .failed fault noted
    | .done operand rest noted => .done (.not operand) rest noted
  | tokens, noted => primary group tokens noted

/-- The further operands of a conjunction, joined to the tree of those before them. -/
def conjunctionFrom (group : Nat → Reader Query) : List Token → Query → Reader Query
  | [], tree, tokens, noted => .done tree tokens noted
  | _ :: rounds, tree, tokens, noted =>
    match tokens with
    | [] => .done tree tokens noted
    | token :: rest =>
      if token.symbol = .and then
        match negation group rest noted with
        | .failed fault noted => .failed fault noted
        | .done operand after noted =>
          conjunctionFrom group rounds (.and tree operand) after noted
      else if token.symbol.startsOperand then
        match negation group tokens noted with
        | .failed fault noted => .failed fault noted
        | .done operand after noted =>
          conjunctionFrom group rounds ((Connective.implied operand).join tree operand) after noted
      else .done tree tokens noted

/-- A conjunction: negations joined by *and* or side by side. -/
def conjunction (group : Nat → Reader Query) : Reader Query := fun tokens noted =>
  match negation group tokens noted with
  | .failed fault noted => .failed fault noted
  | .done first rest noted => conjunctionFrom group rest first rest noted

/-- The further conjunctions of a disjunction, joined to the tree of those before them. -/
def disjunctionFrom (group : Nat → Reader Query) : List Token → Query → Reader Query
  | [], tree, tokens, noted => .done tree tokens noted
  | _ :: rounds, tree, tokens, noted =>
    match tokens with
    | [] => .done tree tokens noted
    | token :: rest =>
      if token.symbol = .or then
        match conjunction group rest noted with
        | .failed fault noted => .failed fault noted
        | .done operand after noted =>
          disjunctionFrom group rounds (.or tree operand) after noted
      else .done tree tokens noted

/-- A disjunction: conjunctions joined by *or*. -/
def disjunction (group : Nat → Reader Query) : Reader Query := fun tokens noted =>
  match conjunction group tokens noted with
  | .failed fault noted => .failed fault noted
  | .done first rest noted => disjunctionFrom group rest first rest noted

/-- The closing parenthesis of a group; the missing one is noted. -/
def close (tree : Query) (position : Nat) : Reader Query
  | ⟨.closing, _⟩ :: rest, noted => .done tree rest noted
  | rest, noted => .done tree rest (.unclosedGroup position :: noted)

/-- The inside of a group that was opened at the given position, and its end. -/
def inGroup (inside : Reader Query) (position : Nat) : Reader Query := fun tokens noted =>
  match inside tokens noted with
  | .failed fault noted => .failed fault noted
  | .done tree rest noted => close tree position rest noted

/-- An expression in which groups may nest to the given number of levels. -/
def expression : Nat → Reader Query
  | 0 => disjunction fun position _ noted => .failed (.nestingTooDeep position) noted
  | levels + 1 => disjunction (inGroup (expression levels))

/-- Closing parentheses without a group, which are noted, and further expressions, joined to the
tree of those before them. -/
def queryFrom : List Token → Query → Reader Query
  | [], tree, tokens, noted => .done tree tokens noted
  | _ :: rounds, tree, tokens, noted =>
    match tokens with
    | [] => .done tree tokens noted
    | token :: rest =>
      if token.symbol = .closing then
        queryFrom rounds tree rest (.unmatchedClosing token.position :: noted)
      else
        match expression heightLimit tokens noted with
        | .failed fault noted => .failed fault noted
        | .done operand after noted =>
          queryFrom rounds ((Connective.implied operand).join tree operand) after noted

/-- A whole query. -/
def query : Reader Query := fun tokens noted =>
  match expression heightLimit tokens noted with
  | .failed fault noted => .failed fault noted
  | .done first rest noted => queryFrom rest first rest noted

end Sequential

/-- Read a query operand by operand: every operand is joined to the tree of all before it. -/
def parseSequentially (raw : String) : Parsed :=
  if (tokens raw).isEmpty then ⟨.rawTerm raw, [.emptyQuery]⟩
  else
    match Sequential.query (tokens raw) [] with
    | .done tree _ noted => ⟨tree, noted.reverse⟩
    | .failed fault noted => ⟨.rawTerm raw, (fault :: noted).reverse⟩

/-! ## The two readers side by side -/

/-- The steps leave trees with one meaning and the same tokens and faults, or end with the same
fault; past a limit, anything may happen. -/
inductive Step.Agrees : Step Part → Step Query → Prop
  | done {part : Part} {tree : Query} (rest : List Token) (noted : List SyntaxError) :
    part.tree.SameMeaning tree → Agrees (.done part rest noted) (.done tree rest noted)
  | failed (fault : SyntaxError) (noted : List SyntaxError) :
    Agrees (.failed fault noted) (.failed fault noted)
  | tooDeep (position : Nat) (noted : List SyntaxError) (step : Step Query) :
    Agrees (.failed (.nestingTooDeep position) noted) step

/-- The readers take agreeing steps on the same tokens. -/
def Reader.Agrees (reader : Reader Part) (reader' : Reader Query) : Prop :=
  ∀ tokens noted, (reader tokens noted).Agrees (reader' tokens noted)

section Sequence

/-- What reads on in agreement after agreeing steps takes agreeing steps. -/
theorem Step.Agrees.bind {next : Part → Reader Part} {next' : Query → Reader Query}
    (hnext : ∀ {part tree}, part.tree.SameMeaning tree →
      Reader.Agrees (next part) (next' tree))
    {step : Step Part} {step' : Step Query} : Step.Agrees step step' →
    Step.Agrees
      (match step with
        | .failed fault noted => .failed fault noted
        | .done part rest noted => next part rest noted)
      (match step' with
        | .failed fault noted => .failed fault noted
        | .done tree rest noted => next' tree rest noted) := by
  intro h
  cases h with
  | done rest noted hsame => exact hnext hsame rest noted
  | failed fault noted => exact Step.Agrees.failed fault noted
  | tooDeep position noted step => exact Step.Agrees.tooDeep position noted _

variable {chain : Chain} {tree : Query}

/-- What reads on in agreement with the chain of one more operand takes agreeing steps. -/
theorem Chain.StandsFor.push_bind (h : chain.StandsFor tree) (connective : Connective)
    {operand : Part} {tree' : Query} (hoperand : operand.tree.SameMeaning tree')
    (position : Nat) (noted : List SyntaxError) {next : Chain → Step Part} {step : Step Query}
    (hnext : ∀ {chain}, chain.StandsFor (connective.join tree tree') →
      Step.Agrees (next chain) step) :
    Step.Agrees
      (match chain.push connective operand position with
        | .error fault => .failed fault noted
        | .ok chain => next chain)
      step := by
  rcases h.push connective hoperand position with ⟨chain', hchain, hmeaning⟩ | ⟨place, hfault⟩
  · rw [hchain]
    exact hnext hmeaning
  · rw [hfault]
    exact Step.Agrees.tooDeep place noted step

/-- A chain finishes as the tree that it stands for. -/
theorem Chain.StandsFor.finish (h : chain.StandsFor tree) :
    Reader.Agrees (Reader.finish chain) (Step.done tree) := by
  intro tokens noted
  rw [Reader.finish]
  rcases h.collapse with ⟨part, hpart, hsame⟩ | ⟨position, hfault⟩
  · rw [hpart]
    exact Step.Agrees.done tokens noted hsame
  · rw [hfault]
    exact Step.Agrees.tooDeep position noted _

end Sequence

namespace Sequential

/-- The value of a field is read as the folding reader reads it. -/
theorem fieldValue_agrees (name : String) (position : Nat) :
    Reader.Agrees (Reader.fieldValue name position) (fieldValue name position) := by
  intro tokens noted
  cases tokens with
  | nil => exact Step.Agrees.failed _ noted
  | cons token rest =>
    rw [Reader.fieldValue, fieldValue]
    cases Reader.leaf? token.symbol with
    | none => exact Step.Agrees.failed _ noted
    | some value => exact Step.Agrees.done rest noted (Query.SameMeaning.refl _)

variable {group : Nat → Reader Part} {group' : Nat → Reader Query}

/-- Primaries agree when groups do. -/
theorem primary_agrees (hgroup : ∀ position, Reader.Agrees (group position) (group' position)) :
    Reader.Agrees (Reader.primary group) (primary group') := by
  intro tokens noted
  cases tokens with
  | nil => exact Step.Agrees.failed _ noted
  | cons token rest =>
    rcases token with ⟨symbol, position⟩
    cases symbol with
    | opening => exact hgroup position rest noted
    | field name => exact fieldValue_agrees name position rest noted
    | term value => exact Step.Agrees.done rest noted (Query.SameMeaning.refl _)
    | phrase value => exact Step.Agrees.done rest noted (Query.SameMeaning.refl _)
    | wildcard pattern => exact Step.Agrees.done rest noted (Query.SameMeaning.refl _)
    | range low high => exact Step.Agrees.done rest noted (Query.SameMeaning.refl _)
    | _ => exact Step.Agrees.failed _ noted

/-- Negations agree when groups do. -/
theorem negation_agrees (hgroup : ∀ position, Reader.Agrees (group position) (group' position)) :
    Reader.Agrees (Reader.negation group) (negation group') := by
  intro tokens noted
  have hprimary := primary_agrees hgroup tokens noted
  cases tokens with
  | nil => exact hprimary
  | cons token rest =>
    rcases token with ⟨symbol, position⟩
    cases symbol with
    | not =>
      rw [Reader.negation, negation]
      refine Step.Agrees.bind ?_ (primary_agrees hgroup rest noted)
      intro operand tree hoperand after noted
      split
      · exact Step.Agrees.tooDeep position noted _
      · exact Step.Agrees.done after noted hoperand.not
    | _ => exact hprimary

/-- A conjunction read on from a chain agrees with one folded on from the tree that the chain stands
for. -/
theorem conjunctionFrom_agrees
    (hgroup : ∀ position, Reader.Agrees (group position) (group' position)) (last : Nat)
    (rounds : List Token) {chain : Chain} {tree : Query} (hchain : chain.StandsFor tree) :
    Reader.Agrees (Reader.conjunctionFrom group last rounds chain)
      (conjunctionFrom group' rounds tree) := by
  induction rounds generalizing chain tree with
  | nil => exact hchain.finish
  | cons round rounds ih =>
    intro tokens noted
    cases tokens with
    | nil => exact hchain.finish [] noted
    | cons token rest =>
      rw [Reader.conjunctionFrom, conjunctionFrom]
      by_cases hand : token.symbol = .and
      · rw [if_pos hand, if_pos hand]
        refine Step.Agrees.bind ?_ (negation_agrees hgroup rest noted)
        intro operand tree' hoperand after noted
        apply hchain.push_bind .and hoperand
        intro next hnext
        exact ih hnext after noted
      · rw [if_neg hand, if_neg hand]
        by_cases hstarts : token.symbol.startsOperand = true
        · rw [if_pos hstarts, if_pos hstarts]
          refine Step.Agrees.bind ?_ (negation_agrees hgroup (token :: rest) noted)
          intro operand tree' hoperand after noted
          rw [hoperand.implied]
          apply hchain.push_bind _ hoperand
          intro next hnext
          exact ih hnext after noted
        · rw [if_neg hstarts, if_neg hstarts]
          exact hchain.finish _ noted

/-- Conjunctions agree when groups do. -/
theorem conjunction_agrees
    (hgroup : ∀ position, Reader.Agrees (group position) (group' position)) (last : Nat) :
    Reader.Agrees (Reader.conjunction group last) (conjunction group') := by
  intro tokens noted
  rw [Reader.conjunction, conjunction]
  refine Step.Agrees.bind ?_ (negation_agrees hgroup tokens noted)
  intro first tree hfirst rest noted
  exact conjunctionFrom_agrees hgroup last rest (.alone _ hfirst) rest noted

/-- A disjunction read on from a chain agrees with one folded on from the tree that the chain stands
for. -/
theorem disjunctionFrom_agrees
    (hgroup : ∀ position, Reader.Agrees (group position) (group' position)) (last : Nat)
    (rounds : List Token) {chain : Chain} {tree : Query} (hchain : chain.StandsFor tree) :
    Reader.Agrees (Reader.disjunctionFrom group last rounds chain)
      (disjunctionFrom group' rounds tree) := by
  induction rounds generalizing chain tree with
  | nil => exact hchain.finish
  | cons round rounds ih =>
    intro tokens noted
    cases tokens with
    | nil => exact hchain.finish [] noted
    | cons token rest =>
      rw [Reader.disjunctionFrom, disjunctionFrom]
      by_cases hor : token.symbol = .or
      · rw [if_pos hor, if_pos hor]
        refine Step.Agrees.bind ?_ (conjunction_agrees hgroup last rest noted)
        intro operand tree' hoperand after noted
        apply hchain.push_bind .or hoperand
        intro next hnext
        exact ih hnext after noted
      · rw [if_neg hor, if_neg hor]
        exact hchain.finish _ noted

/-- Disjunctions agree when groups do. -/
theorem disjunction_agrees
    (hgroup : ∀ position, Reader.Agrees (group position) (group' position)) (last : Nat) :
    Reader.Agrees (Reader.disjunction group last) (disjunction group') := by
  intro tokens noted
  rw [Reader.disjunction, disjunction]
  refine Step.Agrees.bind ?_ (conjunction_agrees hgroup last tokens noted)
  intro first tree hfirst rest noted
  exact disjunctionFrom_agrees hgroup last rest (.alone _ hfirst) rest noted

theorem close_agrees {part : Part} {tree : Query} (h : part.tree.SameMeaning tree)
    (position : Nat) : Reader.Agrees (Reader.close part position) (close tree position) := by
  intro tokens noted
  cases tokens with
  | nil => exact Step.Agrees.done [] _ h
  | cons token rest =>
    rcases token with ⟨symbol, place⟩
    cases symbol <;> exact Step.Agrees.done _ _ h

/-- Expressions agree with any number of levels left; by induction on the levels. -/
theorem expression_agrees (last levels : Nat) :
    Reader.Agrees (Reader.expression last levels) (expression levels) := by
  induction levels with
  | zero =>
    apply disjunction_agrees
    intro position tokens noted
    exact Step.Agrees.failed _ noted
  | succ levels ih =>
    apply disjunction_agrees
    intro position tokens noted
    rw [Reader.inGroup, inGroup]
    refine Step.Agrees.bind ?_ (ih tokens noted)
    intro part tree hpart
    exact close_agrees hpart position

/-- A query read on from a chain agrees with one folded on from the tree that the chain stands for.
-/
theorem queryFrom_agrees (last : Nat) (rounds : List Token) {chain : Chain} {tree : Query}
    (hchain : chain.StandsFor tree) :
    Reader.Agrees (Reader.queryFrom last rounds chain) (queryFrom rounds tree) := by
  induction rounds generalizing chain tree with
  | nil => exact hchain.finish
  | cons round rounds ih =>
    intro tokens noted
    cases tokens with
    | nil => exact hchain.finish [] noted
    | cons token rest =>
      rw [Reader.queryFrom, queryFrom]
      by_cases hclosing : token.symbol = .closing
      · rw [if_pos hclosing, if_pos hclosing]
        exact ih hchain rest _
      · rw [if_neg hclosing, if_neg hclosing]
        refine Step.Agrees.bind ?_ (expression_agrees last heightLimit (token :: rest) noted)
        intro operand tree' hoperand after noted
        rw [hoperand.implied]
        apply hchain.push_bind _ hoperand
        intro next hnext
        exact ih hnext after noted

/-- The two readers note the same faults and give trees with one meaning, unless a limit ends the
reading. -/
theorem query_agrees (last : Nat) : Reader.Agrees (Reader.query last) query := by
  intro tokens noted
  rw [Reader.query, query]
  refine Step.Agrees.bind ?_ (expression_agrees last heightLimit tokens noted)
  intro first tree hfirst rest noted
  exact queryFrom_agrees last rest (.alone _ hfirst) rest noted

end Sequential

/-- A query that stays within the limits means the same, whether the operands of its runs are joined
as balanced trees or one after the other; and the same is wrong with it. -/
theorem evaluate_parse_eq_sequentially (raw : String)
    (h : ∀ position, .nestingTooDeep position ∉ (parse raw).errors) :
    (parse raw).errors = (parseSequentially raw).errors ∧
      ∀ index : Index, index.evaluate (parse raw).tree =
        index.evaluate (parseSequentially raw).tree := by
  rw [parse] at h ⊢
  rw [parseSequentially]
  cases hlast : (tokens raw).getLast? with
  | none =>
    have hempty : (tokens raw).isEmpty = true := by
      rw [List.isEmpty_iff]
      exact List.getLast?_eq_none_iff.mp hlast
    rw [if_pos hempty]
    exact ⟨rfl, fun _ => rfl⟩
  | some last =>
    have hsome : ¬ (tokens raw).isEmpty = true := by
      rw [List.isEmpty_iff]
      intro hnil
      simp [hnil] at hlast
    rw [if_neg hsome]
    rw [hlast] at h
    dsimp only at h ⊢
    have hagrees := Sequential.query_agrees last.position (tokens raw) []
    generalize Reader.query last.position (tokens raw) [] = step at hagrees h ⊢
    generalize Sequential.query (tokens raw) [] = step' at hagrees ⊢
    cases hagrees with
    | done rest noted hsame => exact ⟨rfl, hsame.evaluate⟩
    | failed fault noted => exact ⟨rfl, fun _ => rfl⟩
    | tooDeep position noted step =>
      -- The fault that ended the reading would be among the errors.
      exact absurd (by simp) (h position)

/-- A stray parenthesis stands between operands that are joined by words, by their places and by
negations; only the first reader balances the run of four before it. -/
theorem evaluate_parse_stray :
    (parse "a b (c NOT d) e) f AND g NOT h i").tree ≠
        (parseSequentially "a b (c NOT d) e) f AND g NOT h i").tree ∧
      ∀ index : Index, index.evaluate (parse "a b (c NOT d) e) f AND g NOT h i").tree =
        index.evaluate (parseSequentially "a b (c NOT d) e) f AND g NOT h i").tree := by
  have herrors : (parse "a b (c NOT d) e) f AND g NOT h i").errors = [.unmatchedClosing 15] := by
    decide +kernel
  refine ⟨by decide +kernel, ?_⟩
  apply (evaluate_parse_eq_sequentially _ _).2
  intro position
  simp [herrors]

end TextSearch
