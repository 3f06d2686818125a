import TextSearch.Proofs.Query.Height
import TextSearch.Proofs.Query.Taking

/-!
# Reading under watch

The reader is told how many levels of groups may still be opened, and hands on what is left.  A
watched reader keeps all of this in one place instead: the tokens that are left, the number of
groups that are open, and the faults noted so far, also where the reading stops.  It looks after
what the reader relies on, too: a chain that becomes one operand has operands, only a closing
parenthesis is left over behind an expression of a query, and neither rounds nor levels run out
before the reading ends.  Where one of these does not hold, it stops for a reason of its own.

The two read alike, whatever the tokens are, so none of these reasons ever comes up.

Main results:

- Theorems `Watched.mirrors_expression` and `Watched.mirrors_query`: the watched reader ends as the
  reader does, at every number of open groups.
- Theorem `Watched.leaves_and_mirrors`: what an expression and a conjunction leave behind, and at
  what a query may stop.
-/

namespace TextSearch

/-- How far a query has been read: the tokens that are left, the number of groups that are open, and
the faults noted so far, latest first. -/
structure Reading where
  tokens : List Token
  opened : Nat
  noted : List SyntaxError
  deriving DecidableEq, Repr

/-- Why a watched reading stops: at a fault of the query; at a chain without operands that was to
become one operand; at a token behind an expression that does not close a group; or where rounds or
levels run out before the reading ends. -/
inductive Stop where
  | fault (fault : SyntaxError)
  | emptyRun
  | leftOver (token : Token)
  | outOfRounds
  deriving DecidableEq, Repr

/-- A reader that keeps its reading, also where it stops. -/
abbrev Watched (α : Type) := ExceptT Stop (StateM Reading) α

namespace Watched

/-! ## Moves -/

/-- Read on from the given reading. -/
def readFrom {α : Type} (reader : Watched α) (reading : Reading) : Except Stop α × Reading :=
  (ExceptT.run reader).run reading

/-- The next token, which is left where it is. -/
def peek : Watched (Option Token) :=
  return (← get).tokens.head?

/-- Take the next token. -/
def advance : Watched (Option Token) := do
  let token ← peek
  modify fun reading => { reading with tokens := reading.tokens.tail }
  return token

/-- Note a fault and read on. -/
def note (fault : SyntaxError) : Watched Unit :=
  modify fun reading => { reading with noted := fault :: reading.noted }

/-- Stop at a fault of the query. -/
def fail {α : Type} (fault : SyntaxError) : Watched α :=
  throw (.fault fault)

/-- The position of the next token; behind the last token it is the position of that token. -/
def positionAt (last : Nat) : Watched Nat :=
  return Reader.positionAt last (← get).tokens

/-- Read with one more group open; it is open no longer afterwards, also where the reading stops. -/
def oneDeeper (inside : Watched Part) : Watched Part :=
  ExceptT.mk do
    modify fun reading => { reading with opened := reading.opened + 1 }
    let result ← inside.run
    modify fun reading => { reading with opened := reading.opened - 1 }
    return result

section Moves

variable {α β : Type}

@[simp]
theorem readFrom_pure (value : α) (reading : Reading) :
    readFrom (pure value) reading = (.ok value, reading) :=
  rfl

@[simp]
theorem readFrom_fail (fault : SyntaxError) (reading : Reading) :
    readFrom (fail fault : Watched α) reading = (.error (.fault fault), reading) :=
  rfl

/-- Sequencing hands the first reader's state to the second, and stops where the first stops. -/
@[simp]
theorem readFrom_bind (reader : Watched α) (next : α → Watched β) (reading : Reading) :
    readFrom (reader >>= next) reading =
      match reader.readFrom reading with
      | (.ok value, after) => (next value).readFrom after
      | (.error stop, after) => (.error stop, after) := by
  unfold readFrom
  rw [ExceptT.run_bind, StateT.run_bind]
  generalize StateT.run (ExceptT.run reader) reading = result
  obtain ⟨_ | _, after⟩ := result <;> rfl

@[simp]
theorem readFrom_peek (reading : Reading) :
    peek.readFrom reading = (.ok reading.tokens.head?, reading) :=
  rfl

@[simp]
theorem readFrom_advance (tokens : List Token) (opened : Nat) (noted : List SyntaxError) :
    advance.readFrom ⟨tokens, opened, noted⟩ = (.ok tokens.head?, ⟨tokens.tail, opened, noted⟩) :=
  rfl

@[simp]
theorem readFrom_note (fault : SyntaxError) (tokens : List Token) (opened : Nat)
    (noted : List SyntaxError) :
    (note fault).readFrom ⟨tokens, opened, noted⟩ = (.ok (), ⟨tokens, opened, fault :: noted⟩) :=
  rfl

@[simp]
theorem readFrom_positionAt (last : Nat) (reading : Reading) :
    (positionAt last).readFrom reading = (.ok (Reader.positionAt last reading.tokens), reading) :=
  rfl

@[simp]
theorem readFrom_get (reading : Reading) :
    readFrom get reading = (.ok reading, reading) :=
  rfl

/-- Reading one level deeper counts one more open level inside and gives it back after. -/
@[simp]
theorem readFrom_oneDeeper (inside : Watched Part) (tokens : List Token) (opened : Nat)
    (noted : List SyntaxError) :
    (oneDeeper inside).readFrom ⟨tokens, opened, noted⟩ =
      ((inside.readFrom ⟨tokens, opened + 1, noted⟩).1,
        { (inside.readFrom ⟨tokens, opened + 1, noted⟩).2 with
          opened := (inside.readFrom ⟨tokens, opened + 1, noted⟩).2.opened - 1 }) :=
  rfl

end Moves

/-! ## Chains -/

/-- All operands of the chain as one.  There has to be one at least. -/
def collapse (chain : Chain) : Watched Part :=
  match balanced (chain.connective.getD .or) chain.run.reverse with
  | none => throw .emptyRun
  | some part =>
    if part.height > heightLimit then fail (.nestingTooDeep chain.position) else return part

/-- The end of a loop that has no rounds left.  There must be no tokens left either. -/
def ranOut (chain : Chain) : Watched Part := do
  match ← peek with
  | none => collapse chain
  | some _ => throw .outOfRounds

/-- Join one more operand, which begins at the given position. -/
def push (chain : Chain) (connective : Connective) (operand : Part) (position : Nat) :
    Watched Chain :=
  match chain.connective with
  | none => return ⟨some connective, operand :: chain.run, position⟩
  | some current =>
    if current = connective then return ⟨some connective, operand :: chain.run, position⟩
    else do
      let part ← collapse chain
      return ⟨some connective, [operand, part], position⟩

/-! ## The grammar -/

/-- The value of a field whose name was read at the given position. -/
def fieldValue (name : String) (position : Nat) : Watched Part := do
  match ← peek with
  | none => fail (.missingFieldValue name position)
  | some token =>
    match Reader.leaf? token.symbol with
    | none => fail (.missingFieldValue name position)
    | some value =>
      let _ ← advance
      return ⟨.field name value, 2⟩

/-- A primary.  What an opening parenthesis leads to is a parameter. -/
def primary (group : Nat → Watched Part) : Watched Part := do
  match ← advance with
  | none => fail .unexpectedEnd
  | some token =>
    match token.symbol with
    | .opening => group token.position
    | .field name => fieldValue name token.position
    | symbol =>
      match Reader.leaf? symbol with
      | some value => return ⟨value, 1⟩
      | none => fail (.unexpectedToken symbol.describe token.position)

/-- A primary, perhaps negated. -/
def negation (group : Nat → Watched Part) : Watched Part := do
  match ← peek with
  | some ⟨.not, position⟩ =>
    let _ ← advance
    let operand ← primary group
    if operand.height ≥ heightLimit then fail (.nestingTooDeep position)
    else return ⟨.not operand.tree, operand.height + 1⟩
  | _ => primary group

/-- The further operands of a conjunction. -/
def conjunctionFrom (group : Nat → Watched Part) (last : Nat) : List Token → Chain → Watched Part
  | [], chain => ranOut chain
  | _ :: rounds, chain => do
    match ← peek with
    | none => collapse chain
    | some token =>
      if token.symbol = .and then
        let _ ← advance
        let position ← positionAt last
        let operand ← negation group
        let chain ← push chain .and operand position
        conjunctionFrom group last rounds chain
      else if token.symbol.startsOperand then
        let operand ← negation group
        let chain ← push chain (Connective.implied operand.tree) operand token.position
        conjunctionFrom group last rounds chain
      else collapse chain

/-- A conjunction: negations joined by *and* or side by side. -/
def conjunction (group : Nat → Watched Part) (last : Nat) : Watched Part := do
  let position ← positionAt last
  let first ← negation group
  let rounds := (← get).tokens
  conjunctionFrom group last rounds (.start first position)

/-- The further conjunctions of a disjunction. -/
def disjunctionFrom (group : Nat → Watched Part) (last : Nat) : List Token → Chain → Watched Part
  | [], chain => ranOut chain
  | _ :: rounds, chain => do
    match ← peek with
    | none => collapse chain
    | some token =>
      if token.symbol = .or then
        let _ ← advance
        let position ← positionAt last
        let operand ← conjunction group last
        let chain ← push chain .or operand position
        disjunctionFrom group last rounds chain
      else collapse chain

/-- A disjunction: conjunctions joined by *or*. -/
def disjunction (group : Nat → Watched Part) (last : Nat) : Watched Part := do
  let position ← positionAt last
  let first ← conjunction group last
  let rounds := (← get).tokens
  disjunctionFrom group last rounds (.start first position)

/-- The closing parenthesis of a group; the missing one is noted. -/
def close (part : Part) (position : Nat) : Watched Part := do
  match ← peek with
  | some ⟨.closing, _⟩ =>
    let _ ← advance
    return part
  | _ =>
    note (.unclosedGroup position)
    return part

/-- The inside of a group that was opened at the given position, and its end. -/
def inGroup (inside : Watched Part) (position : Nat) : Watched Part := do
  if (← get).opened ≥ heightLimit then fail (.nestingTooDeep position)
  else
    let part ← oneDeeper inside
    close part position

/-- Groups inside groups, to the given number of levels. -/
def groups (last : Nat) : Nat → Nat → Watched Part
  | 0 => inGroup (throw .outOfRounds)
  | levels + 1 => inGroup (disjunction (groups last levels) last)

/-- What an opening parenthesis leads to: there are as many levels as groups may still be opened. -/
def group (last position : Nat) : Watched Part := do
  let levels := heightLimit - (← get).opened
  groups last levels position

/-- An expression, within the groups that are open. -/
def expression (last : Nat) : Watched Part :=
  disjunction (group last) last

/-- An expression of a whole query, behind which nothing is left that could go on with it. -/
def outermost (last : Nat) : Watched Part := do
  let part ← expression last
  match ← peek with
  | none => return part
  | some token => if token.symbol = .closing then return part else throw (.leftOver token)

/-- What follows the first expression of a query. -/
def queryFrom (last : Nat) : List Token → Chain → Watched Part
  | [], chain => ranOut chain
  | _ :: rounds, chain => do
    match ← peek with
    | none => collapse chain
    | some token =>
      if token.symbol = .closing then
        note (.unmatchedClosing token.position)
        let _ ← advance
        queryFrom last rounds chain
      else
        let operand ← outermost last
        let chain ← push chain (Connective.implied operand.tree) operand token.position
        queryFrom last rounds chain

/-- A whole query. -/
def query (last : Nat) : Watched Part := do
  let position ← positionAt last
  let first ← outermost last
  let rounds := (← get).tokens
  queryFrom last rounds (.start first position)

/-! ## Agreement -/

/-- The watched reading ends as the step does, with the same faults noted and as many groups open as
where it began.  The end of the query is unexpected only where no tokens are left. -/
inductive Agrees (opened : Nat) : Step Part → Except Stop Part × Reading → Prop
  | done (part : Part) (rest : List Token) (noted : List SyntaxError) :
    Agrees opened (.done part rest noted) (.ok part, ⟨rest, opened, noted⟩)
  | failed {fault : SyntaxError} {rest : List Token} (noted : List SyntaxError) :
    (fault = .unexpectedEnd → rest = []) →
    Agrees opened (.failed fault noted) (.error (.fault fault), ⟨rest, opened, noted⟩)

/-- With the given number of groups open, the watched reader ends as the reader does. -/
def Mirrors (opened : Nat) (watched : Watched Part) (reader : Reader Part) : Prop :=
  ∀ tokens noted, Agrees opened (reader tokens noted) (watched.readFrom ⟨tokens, opened, noted⟩)

section Agreement

variable {opened : Nat} {tokens : List Token} {noted : List SyntaxError}

/-- What reads on in agreement after an agreeing reading agrees. -/
theorem Agrees.bind {step : Step Part} {watched : Watched Part} {reading : Reading}
    {next : Part → Reader Part} {next' : Part → Watched Part} :
    Agrees opened step (watched.readFrom reading) →
    (∀ {part rest noted}, step = .done part rest noted →
      Agrees opened (next part rest noted) ((next' part).readFrom ⟨rest, opened, noted⟩)) →
    Agrees opened
      (match step with
        | .failed fault noted => .failed fault noted
        | .done part rest noted => next part rest noted)
      ((watched >>= next').readFrom reading) := by
  intro h hnext
  rw [readFrom_bind]
  generalize watched.readFrom reading = result at h
  cases h with
  | done part rest noted => exact hnext rfl
  | failed noted hend => exact .failed noted hend

/-- A look at what is left after an agreeing reading changes nothing. -/
theorem Agrees.look {step : Step Part} {watched : Watched Part} {reading : Reading}
    {next : Part → Watched Part} (h : Agrees opened step (watched.readFrom reading))
    (hnext : ∀ {part rest noted}, step = .done part rest noted →
      (next part).readFrom ⟨rest, opened, noted⟩ = (.ok part, ⟨rest, opened, noted⟩)) :
    Agrees opened step ((watched >>= next).readFrom reading) := by
  rw [readFrom_bind]
  generalize watched.readFrom reading = result at h
  cases h with
  | done part rest noted =>
    dsimp only
    rw [hnext rfl]
    exact .done part rest noted
  | failed noted hend => exact .failed noted hend

/-- The operands of a chain become one, and no fault but the limit on heights stands against it. -/
theorem readFrom_collapse {chain : Chain} (h : chain.run ≠ []) :
    (∃ part, chain.collapse = .ok part ∧
      ∀ reading, (collapse chain).readFrom reading = (.ok part, reading)) ∨
    ∃ position, chain.collapse = .error (.nestingTooDeep position) ∧
      ∀ reading, (collapse chain).readFrom reading =
        (.error (.fault (.nestingTooDeep position)), reading) := by
  have hreverse : chain.run.reverse ≠ [] := by simpa using h
  obtain ⟨part, hpart⟩ := exists_balanced (chain.connective.getD .or) hreverse
  rw [Chain.collapse, collapse, hpart]
  by_cases hhigh : part.height > heightLimit
  · right
    exact ⟨chain.position, by simp [hhigh], by simp [hhigh]⟩
  · left
    exact ⟨part, by simp [hhigh], by simp [hhigh]⟩

/-- A chain with an operand collapses in the watched reader as it does in the plain one. -/
theorem mirrors_collapse {chain : Chain} (h : chain.run ≠ []) :
    Mirrors opened (collapse chain) (Reader.finish chain) := by
  intro tokens noted
  rw [Reader.finish]
  rcases readFrom_collapse h with ⟨part, hpart, hread⟩ | ⟨position, hfault, hread⟩
  · rw [hpart, hread]
    exact .done part tokens noted
  · rw [hfault, hread]
    exact .failed noted (by simp)

/-- Where the tokens have run out, the watched reader finishes the chain as the plain one does. -/
theorem agrees_ranOut {chain : Chain} (h : chain.run ≠ []) (htokens : tokens.length ≤ 0) :
    Agrees opened (Reader.finish chain tokens noted)
      ((ranOut chain).readFrom ⟨tokens, opened, noted⟩) := by
  have hnil : tokens = [] := List.eq_nil_of_length_eq_zero (Nat.le_zero.mp htokens)
  subst hnil
  rw [ranOut, readFrom_bind, readFrom_peek]
  exact mirrors_collapse h [] noted

/-- What reads on in agreement with the chain of one more operand agrees. -/
theorem agrees_push {chain : Chain} (h : chain.run ≠ []) (connective : Connective) (operand : Part)
    (position : Nat) {next : Chain → Step Part} {next' : Chain → Watched Part}
    (hnext : ∀ {chain}, chain.run ≠ [] →
      Agrees opened (next chain) ((next' chain).readFrom ⟨tokens, opened, noted⟩)) :
    Agrees opened
      (match chain.push connective operand position with
        | .error fault => .failed fault noted
        | .ok chain => next chain)
      ((push chain connective operand position >>= next').readFrom ⟨tokens, opened, noted⟩) := by
  rw [readFrom_bind, Chain.push, push]
  cases chain.connective with
  | none => exact hnext (List.cons_ne_nil _ _)
  | some current =>
    by_cases hsame : current = connective
    · simp only [if_pos hsame, readFrom_pure]
      exact hnext (List.cons_ne_nil _ _)
    · simp only [if_neg hsame, readFrom_bind]
      rcases readFrom_collapse h with ⟨part, hpart, hread⟩ | ⟨place, hfault, hread⟩
      · rw [hpart, hread]
        exact hnext (List.cons_ne_nil _ _)
      · rw [hfault, hread]
        exact .failed noted (by simp)

/-- The value of a field is read the same with and without the watch. -/
theorem mirrors_fieldValue (name : String) (position : Nat) :
    Mirrors opened (fieldValue name position) (Reader.fieldValue name position) := by
  intro tokens noted
  rw [fieldValue, readFrom_bind, readFrom_peek]
  cases tokens with
  | nil => exact .failed noted (by simp)
  | cons token rest =>
    dsimp only [List.head?_cons]
    rw [Reader.fieldValue]
    cases Reader.leaf? token.symbol with
    | none => exact .failed noted (by simp)
    | some value => exact .done _ rest noted

variable {group : Nat → Reader Part} {group' : Nat → Watched Part}

/-- Primaries mirror each other when groups do. -/
theorem mirrors_primary (hgroup : ∀ position, Mirrors opened (group' position) (group position)) :
    Mirrors opened (primary group') (Reader.primary group) := by
  intro tokens noted
  rw [primary, readFrom_bind, readFrom_advance]
  cases tokens with
  | nil => exact .failed noted (fun _ => rfl)
  | cons token rest =>
    rcases token with ⟨symbol, position⟩
    cases symbol with
    | opening => exact hgroup position rest noted
    | field name => exact mirrors_fieldValue name position rest noted
    | term value => exact .done _ rest noted
    | phrase value => exact .done _ rest noted
    | wildcard pattern => exact .done _ rest noted
    | range low high => exact .done _ rest noted
    | _ => exact .failed noted (by simp)

/-- Negations mirror each other when groups do. -/
theorem mirrors_negation (hgroup : ∀ position, Mirrors opened (group' position) (group position)) :
    Mirrors opened (negation group') (Reader.negation group) := by
  intro tokens noted
  have hprimary := mirrors_primary hgroup tokens noted
  rw [negation, readFrom_bind, readFrom_peek]
  cases tokens with
  | nil => exact hprimary
  | cons token rest =>
    rcases token with ⟨symbol, position⟩
    cases symbol with
    | not =>
      dsimp only [List.head?_cons]
      rw [Reader.negation, readFrom_bind, readFrom_advance]
      refine Agrees.bind (mirrors_primary hgroup rest noted) ?_
      intro operand after noted hoperand
      split
      · exact .failed noted (by simp)
      · exact .done _ after noted
    | _ => exact hprimary

/-! ## Loops over operands -/

/-- Conjunctions read from any round agree as long as the rounds do not run out before the tokens.
-/
theorem agrees_conjunctionFrom
    (hgroup : ∀ position, Mirrors opened (group' position) (group position))
    (htook : Reader.TookGroups group) (last : Nat) {rounds : List Token} {chain : Chain}
    (hrun : chain.run ≠ []) (hrounds : tokens.length ≤ rounds.length) :
    Agrees opened (Reader.conjunctionFrom group last rounds chain tokens noted)
      ((conjunctionFrom group' last rounds chain).readFrom ⟨tokens, opened, noted⟩) := by
  induction rounds generalizing chain tokens noted with
  | nil => exact agrees_ranOut hrun hrounds
  | cons round rounds ih =>
    rw [conjunctionFrom, readFrom_bind, readFrom_peek]
    cases tokens with
    | nil => exact mirrors_collapse hrun [] noted
    | cons token rest =>
      rw [List.length_cons, List.length_cons] at hrounds
      dsimp only [List.head?_cons]
      rw [Reader.conjunctionFrom]
      by_cases hand : token.symbol = .and
      · rw [if_pos hand, if_pos hand, readFrom_bind, readFrom_advance]
        dsimp only
        rw [readFrom_bind, readFrom_positionAt]
        refine Agrees.bind (mirrors_negation hgroup rest noted) ?_
        intro operand after noted hoperand
        -- The operand takes a token, so a round is left for each token behind it.
        have hlength := (Reader.took_negation htook hoperand).length_lt
        refine agrees_push hrun .and operand _ ?_
        intro chain hrun
        exact ih hrun (by omega)
      · rw [if_neg hand, if_neg hand]
        by_cases hstarts : token.symbol.startsOperand = true
        · rw [if_pos hstarts, if_pos hstarts]
          refine Agrees.bind (mirrors_negation hgroup (token :: rest) noted) ?_
          intro operand after noted hoperand
          have hlength := (Reader.took_negation htook hoperand).length_lt
          rw [List.length_cons] at hlength
          refine agrees_push hrun _ operand _ ?_
          intro chain hrun
          exact ih hrun (by omega)
        · rw [if_neg hstarts, if_neg hstarts]
          exact mirrors_collapse hrun (token :: rest) noted

/-- Conjunctions mirror each other when groups do. -/
theorem mirrors_conjunction
    (hgroup : ∀ position, Mirrors opened (group' position) (group position))
    (htook : Reader.TookGroups group) (last : Nat) :
    Mirrors opened (conjunction group' last) (Reader.conjunction group last) := by
  intro tokens noted
  rw [conjunction, readFrom_bind, readFrom_positionAt]
  refine Agrees.bind (mirrors_negation hgroup tokens noted) ?_
  intro first rest noted hfirst
  rw [readFrom_bind, readFrom_get]
  exact agrees_conjunctionFrom hgroup htook last (List.cons_ne_nil _ _) (Nat.le_refl _)

/-- Disjunctions read from any round agree as long as the rounds do not run out before the tokens.
-/
theorem agrees_disjunctionFrom
    (hgroup : ∀ position, Mirrors opened (group' position) (group position))
    (htook : Reader.TookGroups group) (last : Nat) {rounds : List Token} {chain : Chain}
    (hrun : chain.run ≠ []) (hrounds : tokens.length ≤ rounds.length) :
    Agrees opened (Reader.disjunctionFrom group last rounds chain tokens noted)
      ((disjunctionFrom group' last rounds chain).readFrom ⟨tokens, opened, noted⟩) := by
  induction rounds generalizing chain tokens noted with
  | nil => exact agrees_ranOut hrun hrounds
  | cons round rounds ih =>
    rw [disjunctionFrom, readFrom_bind, readFrom_peek]
    cases tokens with
    | nil => exact mirrors_collapse hrun [] noted
    | cons token rest =>
      rw [List.length_cons, List.length_cons] at hrounds
      dsimp only [List.head?_cons]
      rw [Reader.disjunctionFrom]
      by_cases hor : token.symbol = .or
      · rw [if_pos hor, if_pos hor, readFrom_bind, readFrom_advance]
        dsimp only
        rw [readFrom_bind, readFrom_positionAt]
        refine Agrees.bind (mirrors_conjunction hgroup htook last rest noted) ?_
        intro operand after noted hoperand
        have hlength := (Reader.took_conjunction htook hoperand).length_lt
        refine agrees_push hrun .or operand _ ?_
        intro chain hrun
        exact ih hrun (by omega)
      · rw [if_neg hor, if_neg hor]
        exact mirrors_collapse hrun (token :: rest) noted

/-- Disjunctions mirror each other when groups do. -/
theorem mirrors_disjunction
    (hgroup : ∀ position, Mirrors opened (group' position) (group position))
    (htook : Reader.TookGroups group) (last : Nat) :
    Mirrors opened (disjunction group' last) (Reader.disjunction group last) := by
  intro tokens noted
  rw [disjunction, readFrom_bind, readFrom_positionAt]
  refine Agrees.bind (mirrors_conjunction hgroup htook last tokens noted) ?_
  intro first rest noted hfirst
  rw [readFrom_bind, readFrom_get]
  exact agrees_disjunctionFrom hgroup htook last (List.cons_ne_nil _ _) (Nat.le_refl _)

end Agreement

/-! ## Groups and whole queries -/

section Groups

theorem mirrors_close (part : Part) (position opened : Nat) :
    Mirrors opened (close part position) (Reader.close part position) := by
  intro tokens noted
  rw [close, readFrom_bind, readFrom_peek]
  cases tokens with
  | nil => exact .done part [] _
  | cons token rest =>
    rcases token with ⟨symbol, place⟩
    cases symbol <;> exact .done part _ _

/-- Below the limit, one more group is open inside a group, and as many as before behind it. -/
theorem mirrors_inGroup {opened : Nat} {inside : Reader Part} {inside' : Watched Part}
    (hopened : opened < heightLimit) (h : Mirrors (opened + 1) inside' inside) (position : Nat) :
    Mirrors opened (inGroup inside' position) (Reader.inGroup inside position) := by
  intro tokens noted
  have hinside : Agrees opened (inside tokens noted)
      ((oneDeeper inside').readFrom ⟨tokens, opened, noted⟩) := by
    have hstep := h tokens noted
    rw [readFrom_oneDeeper]
    generalize inside tokens noted = step at hstep ⊢
    generalize inside'.readFrom ⟨tokens, opened + 1, noted⟩ = result at hstep ⊢
    cases hstep with
    | done part rest noted => exact .done part rest noted
    | failed noted hend => exact .failed noted hend
  rw [inGroup, readFrom_bind, readFrom_get]
  dsimp only
  rw [if_neg (Nat.not_le.mpr hopened), Reader.inGroup]
  refine Agrees.bind hinside ?_
  intro part rest noted _
  exact mirrors_close part position opened rest noted

/-- The count of open groups and the levels that are left change together. -/
theorem mirrors_groups (last opened position : Nat) :
    Mirrors opened (groups last (heightLimit - opened) position)
      (Reader.groups last (heightLimit - opened) position) := by
  induction hlevels : heightLimit - opened generalizing opened position with
  | zero =>
    intro tokens noted
    have hfull : opened ≥ heightLimit := by omega
    rw [groups, inGroup, readFrom_bind, readFrom_get]
    dsimp only
    rw [if_pos hfull]
    exact .failed noted (by simp)
  | succ levels ih =>
    -- Inside, one more group is open and one level less is left.
    rw [groups, Reader.groups]
    refine mirrors_inGroup (by omega) ?_ position
    rw [Reader.expression_eq]
    exact mirrors_disjunction (fun place => ih (opened + 1) place (by omega))
      (Reader.tookGroups_groups last levels) last

/-- A group under `opened` open levels mirrors the plain one with the remaining levels. -/
theorem mirrors_group (last opened position : Nat) :
    Mirrors opened (group last position) (Reader.groups last (heightLimit - opened) position) := by
  intro tokens noted
  rw [group, readFrom_bind, readFrom_get]
  exact mirrors_groups last opened position tokens noted

/-- An expression under `opened` open levels mirrors the plain one with the remaining levels. -/
theorem mirrors_expression (last opened : Nat) :
    Mirrors opened (expression last) (Reader.expression last (heightLimit - opened)) := by
  rw [expression, Reader.expression_eq]
  exact mirrors_disjunction (mirrors_group last opened)
    (Reader.tookGroups_groups last (heightLimit - opened)) last

/-- Behind an expression nothing is left over but a closing parenthesis. -/
theorem mirrors_outermost (last : Nat) :
    Mirrors 0 (outermost last) (Reader.expression last heightLimit) := by
  intro tokens noted
  refine Agrees.look (mirrors_expression last 0 tokens noted) ?_
  intro part rest noted hexpression
  obtain ⟨derivation, -, hends⟩ := Reader.derived_expression hexpression
  rw [readFrom_bind, readFrom_peek]
  cases rest with
  | nil => rfl
  | cons token rest =>
    dsimp only [List.head?_cons]
    rw [if_pos (hends token rfl), readFrom_pure]

/-- Whole queries read from any round agree as long as the rounds do not run out before the tokens.
-/
theorem agrees_queryFrom (last : Nat) {rounds tokens : List Token} {noted : List SyntaxError}
    {chain : Chain} (hrun : chain.run ≠ []) (hrounds : tokens.length ≤ rounds.length) :
    Agrees 0 (Reader.queryFrom last rounds chain tokens noted)
      ((queryFrom last rounds chain).readFrom ⟨tokens, 0, noted⟩) := by
  induction rounds generalizing chain tokens noted with
  | nil => exact agrees_ranOut hrun hrounds
  | cons round rounds ih =>
    rw [queryFrom, readFrom_bind, readFrom_peek]
    cases tokens with
    | nil => exact mirrors_collapse hrun [] noted
    | cons token rest =>
      rw [List.length_cons, List.length_cons] at hrounds
      dsimp only [List.head?_cons]
      rw [Reader.queryFrom]
      by_cases hclosing : token.symbol = .closing
      · rw [if_pos hclosing, if_pos hclosing, readFrom_bind, readFrom_note]
        dsimp only
        rw [readFrom_bind, readFrom_advance]
        exact ih hrun (by omega)
      · rw [if_neg hclosing, if_neg hclosing]
        refine Agrees.bind (mirrors_outermost last (token :: rest) noted) ?_
        intro operand after noted hoperand
        have hlength := (Reader.took_expression hoperand).length_lt
        rw [List.length_cons] at hlength
        refine agrees_push hrun _ operand _ ?_
        intro chain hrun
        exact ih hrun (by omega)

/-- The watched query mirrors the plain one. -/
theorem mirrors_query (last : Nat) : Mirrors 0 (query last) (Reader.query last) := by
  intro tokens noted
  rw [query, readFrom_bind, readFrom_positionAt]
  refine Agrees.bind (mirrors_outermost last tokens noted) ?_
  intro first rest noted hfirst
  rw [readFrom_bind, readFrom_get]
  exact agrees_queryFrom last (List.cons_ne_nil _ _) (Nat.le_refl _)

end Groups

/-! ## What is left behind -/

/-- What a reading that gave a part has done: it took tokens off the beginning, at least one, left
as many groups open as before, and at most noted further faults.  The tokens that are left end what
was read. -/
structure Leaves (ends : List Token → Prop) (before after : Reading) : Prop where
  exists_taken : ∃ taken, taken ≠ [] ∧ before.tokens = taken ++ after.tokens
  opened_eq : after.opened = before.opened
  noted_suffix : before.noted <:+ after.noted
  ends_tokens : ends after.tokens

/-- Where the watched reading gives a part, the reader gives it, and the same is left. -/
theorem Mirrors.exists_of_ok {opened : Nat} {watched : Watched Part} {reader : Reader Part}
    (h : Mirrors opened watched reader) {tokens : List Token} {noted : List SyntaxError}
    {part : Part} {after : Reading}
    (hread : watched.readFrom ⟨tokens, opened, noted⟩ = (.ok part, after)) :
    reader tokens noted = .done part after.tokens after.noted ∧ after.opened = opened := by
  have hstep := h tokens noted
  rw [hread] at hstep
  generalize reader tokens noted = step at hstep ⊢
  cases hstep with
  | done => exact ⟨rfl, rfl⟩

/-- Where the watched reading stops, it stops at a fault of the query. -/
theorem Mirrors.exists_of_error {opened : Nat} {watched : Watched Part} {reader : Reader Part}
    (h : Mirrors opened watched reader) {tokens : List Token} {noted : List SyntaxError}
    {stop : Stop} {after : Reading}
    (hread : watched.readFrom ⟨tokens, opened, noted⟩ = (.error stop, after)) :
    (∃ fault, stop = .fault fault) ∧ (stop = .fault .unexpectedEnd → after.tokens = []) := by
  have hstep := h tokens noted
  rw [hread] at hstep
  generalize reader tokens noted = step at hstep
  cases hstep with
  | failed noted hend =>
    refine ⟨⟨_, rfl⟩, fun hstop => hend ?_⟩
    injection hstop

/-- A reading that takes tokens from the front and leaves the count as it was keeps the promise of
its rule. -/
theorem leaves_of_took {ends : List Token → Prop} {before after : Reading}
    (htook : Reader.Took before.tokens before.noted after.tokens after.noted)
    (hopened : after.opened = before.opened) (hends : ends after.tokens) :
    Leaves ends before after := by
  obtain ⟨taken, faults, htaken, htokens, hnoted, -⟩ := htook.exists_taken
  exact ⟨⟨taken, htaken.ne_nil, htokens⟩, hopened, ⟨faults, hnoted.symm⟩, hends⟩

/-- What an expression and a conjunction leave behind, wherever they are read: each takes tokens, at
least one, leaves as many groups open as before, and only adds to the faults; an expression ends at
the end of the tokens or before a closing parenthesis, and a conjunction there or before an *or*.

Both read as the unwatched reader does, and so does a whole query.  So it stops at nothing but its
own faults: no chain without operands becomes one operand, and nothing but a closing parenthesis is
met behind an expression.  The end of a query is unexpected only to a primary that finds no tokens
left. -/
theorem leaves_and_mirrors (last : Nat) (before : Reading) :
    (∀ part after, (expression last).readFrom before = (.ok part, after) →
      Leaves Reader.EndsDisjunction before after) ∧
    (∀ part after, (conjunction (group last) last).readFrom before = (.ok part, after) →
      Leaves Reader.EndsConjunction before after) ∧
    Mirrors before.opened (expression last) (Reader.expression last (heightLimit - before.opened)) ∧
    Mirrors before.opened (conjunction (group last) last)
      (Reader.conjunction (Reader.groups last (heightLimit - before.opened)) last) ∧
    Mirrors 0 (query last) (Reader.query last) ∧
    (∀ stop after, (query last).readFrom ⟨before.tokens, 0, []⟩ = (.error stop, after) →
      (∃ fault, stop = .fault fault) ∧
        (stop = .fault .unexpectedEnd → after.tokens = [])) := by
  have hgroups : Reader.TookGroups (Reader.groups last (heightLimit - before.opened)) :=
    Reader.tookGroups_groups last _
  have hexpression := mirrors_expression last before.opened
  have hconjunction := mirrors_conjunction (mirrors_group last before.opened) hgroups last
  refine ⟨?_, ?_, hexpression, hconjunction, mirrors_query last, ?_⟩
  · intro part after hread
    obtain ⟨hstep, hopened⟩ := hexpression.exists_of_ok hread
    obtain ⟨derivation, -, hends⟩ := Reader.derived_expression hstep
    exact leaves_of_took (Reader.took_expression hstep) hopened hends
  · intro part after hread
    obtain ⟨hstep, hopened⟩ := hconjunction.exists_of_ok hread
    obtain ⟨derivation, -, hends⟩ :=
      Reader.derived_conjunction (Reader.derivedGroups_groups last _) hstep
    exact leaves_of_took (Reader.took_conjunction hgroups hstep) hopened hends
  · intro stop after hread
    exact (mirrors_query last).exists_of_error hread

/-- Inside a group, with a fault noted before, a word, an *or*, and a group that is not closed; and
a whole query that ends behind its *or*. -/
theorem leaves_and_mirrors_unclosed :
    Leaves Reader.EndsDisjunction
        ⟨[⟨.term "a", 2⟩, ⟨.or, 4⟩, ⟨.opening, 7⟩, ⟨.term "b", 8⟩], 1, [.unmatchedClosing 0]⟩
        ⟨[], 1, [.unclosedGroup 7, .unmatchedClosing 0]⟩ ∧
      Leaves Reader.EndsConjunction
        ⟨[⟨.term "a", 2⟩, ⟨.or, 4⟩, ⟨.opening, 7⟩, ⟨.term "b", 8⟩], 1, [.unmatchedClosing 0]⟩
        ⟨[⟨.or, 4⟩, ⟨.opening, 7⟩, ⟨.term "b", 8⟩], 1, [.unmatchedClosing 0]⟩ ∧
      ∃ after, (query 2).readFrom ⟨[⟨.term "a", 0⟩, ⟨.or, 2⟩], 0, []⟩ =
        (.error (.fault .unexpectedEnd), after) ∧ after.tokens = [] := by
  have hleaves := leaves_and_mirrors 8
    ⟨[⟨.term "a", 2⟩, ⟨.or, 4⟩, ⟨.opening, 7⟩, ⟨.term "b", 8⟩], 1, [.unmatchedClosing 0]⟩
  have hend : (query 2).readFrom ⟨[⟨.term "a", 0⟩, ⟨.or, 2⟩], 0, []⟩ =
      (.error (.fault .unexpectedEnd), ⟨[], 0, []⟩) := by decide +kernel
  refine ⟨?_, ?_, _, hend, ?_⟩
  · exact hleaves.1 ⟨.or (.term "a") (.term "b"), 2⟩ _ (by decide +kernel)
  · exact hleaves.2.1 ⟨.term "a", 1⟩ _ (by decide +kernel)
  · exact ((leaves_and_mirrors 2 ⟨[⟨.term "a", 0⟩, ⟨.or, 2⟩], 0, []⟩).2.2.2.2.2 _ _ hend).2 rfl

end Watched
end TextSearch
