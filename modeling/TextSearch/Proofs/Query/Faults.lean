import TextSearch.Proofs.Query.Coverage
import TextSearch.Proofs.Query.Simulation

/-!
# Faults of a query

Every fault that is reported with a position is reported for a token of the query: it stands at the
position of the token and says what the token is.  While a query is read, only parentheses without
partners are noted; the first other fault ends the reading, is reported last, and leaves the whole
query as one term.

Positions come from several places: the token that was just taken, the next one, the last one where
no token is left, and the latest operand of a chain.  All of them are positions of tokens
(`Reader.IsPlace`), and every reader keeps what has been noted about them (`Reader.Keeps`).

Main results:

- Theorem `Reader.keeps_expression`: whatever is noted or reported by an expression is placed at
  tokens of the query.
- Theorem `tokens_eq_nil_iff`: only blank queries have no tokens.
- Theorem `parse_errors_placed`: what the faults of a query look like, and where they are.
-/

namespace TextSearch

namespace SyntaxError

/-- A parenthesis has no partner. -/
def IsUnpaired (fault : SyntaxError) : Prop :=
  ∃ position, fault = .unclosedGroup position ∨ fault = .unmatchedClosing position

/-- A query is read on behind parentheses without partners only. -/
theorem isFatal_eq_false_iff (fault : SyntaxError) :
    fault.isFatal = false ↔ fault.IsUnpaired := by
  cases fault <;> simp [isFatal, IsUnpaired]

/-- The position that a fault is reported with. -/
def position? : SyntaxError → Option Nat
  | unexpectedToken _ position => some position
  | missingFieldValue _ position => some position
  | unclosedGroup position => some position
  | unmatchedClosing position => some position
  | nestingTooDeep position => some position
  | emptyQuery | unexpectedEnd => none

/-- The token is one that the fault can be reported for. -/
def Fits (token : Token) : SyntaxError → Prop
  | unexpectedToken found _ => token.symbol.describe = found
  | missingFieldValue name _ => token.symbol = .field name
  | unclosedGroup _ => token.symbol = .opening
  | unmatchedClosing _ => token.symbol = .closing
  | _ => True

/-- If the fault has a position, a token that it fits stands there. -/
def PlacedAt (whole : List Token) (fault : SyntaxError) : Prop :=
  ∀ position, fault.position? = some position →
    ∃ token ∈ whole, token.position = position ∧ fault.Fits token

variable {whole : List Token} {token : Token}

/-- A fault is placed at the token that it is reported for. -/
theorem placedAt_of_mem (hmem : token ∈ whole) {fault : SyntaxError}
    (hposition : fault.position? = some token.position) (hfits : fault.Fits token) :
    fault.PlacedAt whole := by
  intro position h
  rw [hposition, Option.some.injEq] at h
  exact ⟨token, hmem, h, hfits⟩

/-- The fault ends the reading of a query that has tokens. -/
structure Ends (whole : List Token) (fault : SyntaxError) : Prop where
  isFatal : fault.isFatal = true
  ne_emptyQuery : fault ≠ .emptyQuery
  placed : fault.PlacedAt whole

theorem ends_unexpectedEnd (whole : List Token) : Ends whole .unexpectedEnd where
  isFatal := rfl
  ne_emptyQuery := by simp
  placed := by
    intro position h
    simp [position?] at h

/-- An unexpected token of the query may end its reading. -/
theorem ends_unexpectedToken (hmem : token ∈ whole) :
    Ends whole (.unexpectedToken token.symbol.describe token.position) where
  isFatal := rfl
  ne_emptyQuery := by simp
  placed := placedAt_of_mem hmem rfl rfl

end SyntaxError

namespace Reader

variable {whole : List Token} {token : Token} {tokens : List Token} {noted : List SyntaxError}

/-! ## Places -/

/-- A token of the query stands at the position. -/
def IsPlace (whole : List Token) (position : Nat) : Prop :=
  ∃ token ∈ whole, token.position = position

/-- The position of the next token, or of the last one when none is left, is that of a token. -/
theorem isPlace_positionAt {last : Nat} (hlast : IsPlace whole last) (h : tokens ⊆ whole) :
    IsPlace whole (positionAt last tokens) := by
  cases tokens with
  | nil => exact hlast
  | cons token tokens => exact ⟨token, h List.mem_cons_self, rfl⟩

/-- A chain starts where its first operand is read. -/
theorem isPlace_start {last : Nat} (hlast : IsPlace whole last) (h : tokens ⊆ whole)
    (first : Part) : IsPlace whole (Chain.start first (positionAt last tokens)).position :=
  isPlace_positionAt hlast h

/-- Nesting too deep may end the reading at any token. -/
theorem ends_nestingTooDeep {position : Nat} (h : IsPlace whole position) :
    SyntaxError.Ends whole (.nestingTooDeep position) := by
  obtain ⟨token, hmem, rfl⟩ := h
  exact ⟨rfl, by simp, SyntaxError.placedAt_of_mem hmem rfl trivial⟩

/-! ## Steps -/

/-- Only parentheses without partners have been noted, each at its token. -/
def Noted (whole : List Token) (noted : List SyntaxError) : Prop :=
  ∀ fault ∈ noted, fault.isFatal = false ∧ fault.PlacedAt whole

/-- An unclosed group may be noted at its opening parenthesis. -/
theorem Noted.unclosedGroup (h : Noted whole noted) (hmem : token ∈ whole)
    (hsymbol : token.symbol = .opening) :
    Noted whole (.unclosedGroup token.position :: noted) :=
  List.forall_mem_cons.mpr ⟨⟨rfl, SyntaxError.placedAt_of_mem hmem rfl hsymbol⟩, h⟩

/-- A closing parenthesis without a group may be noted where it stands. -/
theorem Noted.unmatchedClosing (h : Noted whole noted) (hmem : token ∈ whole)
    (hsymbol : token.symbol = .closing) :
    Noted whole (.unmatchedClosing token.position :: noted) :=
  List.forall_mem_cons.mpr ⟨⟨rfl, SyntaxError.placedAt_of_mem hmem rfl hsymbol⟩, h⟩

/-- A step within the query: what it leaves are tokens of the query, and what it notes or reports is
placed at tokens of the query. -/
inductive Within (whole : List Token) : Step Part → Prop
  | done {part : Part} {rest : List Token} {noted : List SyntaxError} :
    rest ⊆ whole → Noted whole noted → Within whole (.done part rest noted)
  | failed {fault : SyntaxError} {noted : List SyntaxError} :
    fault.Ends whole → Noted whole noted → Within whole (.failed fault noted)

/-- A reader that takes steps within the query. -/
def Keeps (whole : List Token) (reader : Reader Part) : Prop :=
  ∀ {tokens noted}, tokens ⊆ whole → Noted whole noted → Within whole (reader tokens noted)

/-- What reads on within the query after a step within it stays within it. -/
theorem Within.bind {next : Part → Reader Part} (hnext : ∀ part, Keeps whole (next part))
    {step : Step Part} : Within whole step →
    Within whole
      (match step with
        | .failed fault noted => .failed fault noted
        | .done part rest noted => next part rest noted) := by
  intro h
  cases h with
  | done hrest hnoted => exact hnext _ hrest hnoted
  | failed hfault hnoted => exact .failed hfault hnoted

/-! ## Chains -/

/-- Work on a chain that fails with a fault for a token, or gives a chain whose latest operand
begins at a token. -/
inductive ChainWithin (whole : List Token) : Except SyntaxError Chain → Prop
  | ok {chain : Chain} : IsPlace whole chain.position → ChainWithin whole (.ok chain)
  | error {fault : SyntaxError} : fault.Ends whole → ChainWithin whole (.error fault)

/-- Reading on with the chain stays within the query. -/
theorem ChainWithin.bind {next : Chain → Step Part} (hnoted : Noted whole noted)
    (hnext : ∀ {chain}, IsPlace whole chain.position → Within whole (next chain))
    {result : Except SyntaxError Chain} : ChainWithin whole result →
    Within whole
      (match result with
        | .error fault => .failed fault noted
        | .ok chain => next chain) := by
  intro h
  cases h with
  | ok hplace => exact hnext hplace
  | error hfault => exact .failed hfault hnoted

/-- A chain that cannot be made one part has no operands or is too high where its latest operand
begins. -/
theorem ends_of_collapse {chain : Chain} {fault : SyntaxError}
    (hchain : IsPlace whole chain.position) (h : chain.collapse = .error fault) :
    fault.Ends whole := by
  rw [Chain.collapse] at h
  split at h
  · rw [Except.error.injEq] at h
    rw [← h]
    exact SyntaxError.ends_unexpectedEnd whole
  · split at h
    · rw [Except.error.injEq] at h
      rw [← h]
      exact ends_nestingTooDeep hchain
    · contradiction

/-- Pushing an operand that begins at a token stays within the query. -/
theorem chainWithin_push {chain : Chain} (hchain : IsPlace whole chain.position)
    (connective : Connective) (operand : Part) {position : Nat}
    (hposition : IsPlace whole position) :
    ChainWithin whole (chain.push connective operand position) := by
  unfold Chain.push
  split
  · exact .ok hposition
  · split
    · exact .ok hposition
    · split
      · rename_i fault hcollapse
        exact .error (ends_of_collapse hchain hcollapse)
      · exact .ok hposition

/-- Finishing a chain stays within the query. -/
theorem keeps_finish {chain : Chain} (hchain : IsPlace whole chain.position) :
    Keeps whole (finish chain) := by
  intro tokens noted htokens hnoted
  rw [finish]
  split
  · exact .done htokens hnoted
  · rename_i fault hcollapse
    exact .failed (ends_of_collapse hchain hcollapse) hnoted

/-! ## Operands -/

/-- Reading the value of a field stays within the query. -/
theorem keeps_fieldValue {name : String} (hmem : token ∈ whole)
    (hsymbol : token.symbol = .field name) : Keeps whole (fieldValue name token.position) := by
  have hends : SyntaxError.Ends whole (.missingFieldValue name token.position) :=
    ⟨rfl, by simp, SyntaxError.placedAt_of_mem hmem rfl hsymbol⟩
  intro tokens noted htokens hnoted
  cases tokens with
  | nil => exact .failed hends hnoted
  | cons value rest =>
    rw [fieldValue]
    split
    · exact .done (List.cons_subset.mp htokens).2 hnoted
    · exact .failed hends hnoted

variable {group : Nat → Reader Part} {last : Nat}

/-- What an opening parenthesis leads to stays within the query. -/
def KeepsGroups (whole : List Token) (group : Nat → Reader Part) : Prop :=
  ∀ token ∈ whole, token.symbol = .opening → Keeps whole (group token.position)

/-- Reading a primary stays within the query when groups do. -/
theorem keeps_primary (hgroup : KeepsGroups whole group) : Keeps whole (primary group) := by
  intro tokens noted htokens hnoted
  cases tokens with
  | nil => exact .failed (SyntaxError.ends_unexpectedEnd whole) hnoted
  | cons token rest =>
    obtain ⟨hmem, hrest⟩ := List.cons_subset.mp htokens
    rw [primary]
    split
    · rename_i hopening
      exact hgroup token hmem hopening hrest hnoted
    · rename_i name hfield
      exact keeps_fieldValue hmem hfield hrest hnoted
    · split
      · exact .done hrest hnoted
      · exact .failed (SyntaxError.ends_unexpectedToken hmem) hnoted

theorem keeps_negation (hgroup : KeepsGroups whole group) : Keeps whole (negation group) := by
  intro tokens noted htokens hnoted
  rw [negation.eq_def]
  split
  · rename_i position rest
    obtain ⟨hmem, hrest⟩ := List.cons_subset.mp htokens
    refine Within.bind ?_ (keeps_primary hgroup hrest hnoted)
    intro operand after noted hafter hnoted
    split
    · exact .failed (ends_nestingTooDeep ⟨_, hmem, rfl⟩) hnoted
    · exact .done hafter hnoted
  · exact keeps_primary hgroup htokens hnoted

/-! ## Loops over operands -/

/-- Reading on in a conjunction stays within the query when groups do; by induction on the rounds.
-/
theorem keeps_conjunctionFrom (hgroup : KeepsGroups whole group) (hlast : IsPlace whole last)
    (rounds : List Token) {chain : Chain} (hchain : IsPlace whole chain.position) :
    Keeps whole (conjunctionFrom group last rounds chain) := by
  induction rounds generalizing chain with
  | nil => exact keeps_finish hchain
  | cons round rounds ih =>
    intro tokens noted htokens hnoted
    cases tokens with
    | nil => exact keeps_finish hchain htokens hnoted
    | cons token rest =>
      obtain ⟨hmem, hrest⟩ := List.cons_subset.mp htokens
      rw [conjunctionFrom]
      split
      · refine Within.bind ?_ (keeps_negation hgroup hrest hnoted)
        intro operand after noted hafter hnoted
        have hposition := isPlace_positionAt hlast hrest
        refine ChainWithin.bind hnoted ?_ (chainWithin_push hchain .and operand hposition)
        intro next hnext
        exact ih hnext hafter hnoted
      · split
        · refine Within.bind ?_ (keeps_negation hgroup htokens hnoted)
          intro operand after noted hafter hnoted
          have hposition : IsPlace whole token.position := ⟨token, hmem, rfl⟩
          refine ChainWithin.bind hnoted ?_ (chainWithin_push hchain _ operand hposition)
          intro next hnext
          exact ih hnext hafter hnoted
        · exact keeps_finish hchain htokens hnoted

/-- Reading a conjunction stays within the query when groups do. -/
theorem keeps_conjunction (hgroup : KeepsGroups whole group) (hlast : IsPlace whole last) :
    Keeps whole (conjunction group last) := by
  intro tokens noted htokens hnoted
  refine Within.bind ?_ (keeps_negation hgroup htokens hnoted)
  intro first rest noted hrest hnoted
  have hstart := isPlace_start hlast htokens first
  exact keeps_conjunctionFrom hgroup hlast rest hstart hrest hnoted

/-- Reading on in a disjunction stays within the query when groups do; by induction on the rounds.
-/
theorem keeps_disjunctionFrom (hgroup : KeepsGroups whole group) (hlast : IsPlace whole last)
    (rounds : List Token) {chain : Chain} (hchain : IsPlace whole chain.position) :
    Keeps whole (disjunctionFrom group last rounds chain) := by
  induction rounds generalizing chain with
  | nil => exact keeps_finish hchain
  | cons round rounds ih =>
    intro tokens noted htokens hnoted
    cases tokens with
    | nil => exact keeps_finish hchain htokens hnoted
    | cons token rest =>
      obtain ⟨-, hrest⟩ := List.cons_subset.mp htokens
      rw [disjunctionFrom]
      split
      · refine Within.bind ?_ (keeps_conjunction hgroup hlast hrest hnoted)
        intro operand after noted hafter hnoted
        have hposition := isPlace_positionAt hlast hrest
        refine ChainWithin.bind hnoted ?_ (chainWithin_push hchain .or operand hposition)
        intro next hnext
        exact ih hnext hafter hnoted
      · exact keeps_finish hchain htokens hnoted

/-- Reading a disjunction stays within the query when groups do. -/
theorem keeps_disjunction (hgroup : KeepsGroups whole group) (hlast : IsPlace whole last) :
    Keeps whole (disjunction group last) := by
  intro tokens noted htokens hnoted
  refine Within.bind ?_ (keeps_conjunction hgroup hlast htokens hnoted)
  intro first rest noted hrest hnoted
  have hstart := isPlace_start hlast htokens first
  exact keeps_disjunctionFrom hgroup hlast rest hstart hrest hnoted

/-! ## Groups and whole queries -/

/-- Closing a group stays within the query: a missing parenthesis is noted at the opening one. -/
theorem keeps_close (part : Part) (hmem : token ∈ whole) (hsymbol : token.symbol = .opening) :
    Keeps whole (close part token.position) := by
  intro tokens noted htokens hnoted
  rw [close.eq_def]
  split
  · exact .done (List.cons_subset.mp htokens).2 hnoted
  · exact .done htokens (hnoted.unclosedGroup hmem hsymbol)

/-- Groups stay within the query when their insides do. -/
theorem keepsGroups_inGroup {inside : Reader Part} (h : Keeps whole inside) :
    KeepsGroups whole (inGroup inside) := by
  intro token hmem hsymbol tokens noted htokens hnoted
  refine Within.bind ?_ (h htokens hnoted)
  intro part
  exact keeps_close part hmem hsymbol

/-- Whatever an expression notes or reports is placed at tokens of the query. -/
theorem keeps_expression (hlast : IsPlace whole last) (levels : Nat) :
    Keeps whole (expression last levels) := by
  induction levels with
  | zero =>
    refine keeps_disjunction ?_ hlast
    intro token hmem hsymbol tokens noted htokens hnoted
    exact .failed (ends_nestingTooDeep ⟨token, hmem, rfl⟩) hnoted
  | succ levels ih => exact keeps_disjunction (keepsGroups_inGroup ih) hlast

/-- Reading on in a query stays within it, also over closing parentheses without groups. -/
theorem keeps_queryFrom (hlast : IsPlace whole last) (rounds : List Token) {chain : Chain}
    (hchain : IsPlace whole chain.position) : Keeps whole (queryFrom last rounds chain) := by
  induction rounds generalizing chain with
  | nil => exact keeps_finish hchain
  | cons round rounds ih =>
    intro tokens noted htokens hnoted
    cases tokens with
    | nil => exact keeps_finish hchain htokens hnoted
    | cons token rest =>
      obtain ⟨hmem, hrest⟩ := List.cons_subset.mp htokens
      rw [queryFrom]
      split
      · rename_i hclosing
        exact ih hchain hrest (hnoted.unmatchedClosing hmem hclosing)
      · refine Within.bind ?_ (keeps_expression hlast heightLimit htokens hnoted)
        intro operand after noted hafter hnoted
        have hposition : IsPlace whole token.position := ⟨token, hmem, rfl⟩
        refine ChainWithin.bind hnoted ?_ (chainWithin_push hchain _ operand hposition)
        intro next hnext
        exact ih hnext hafter hnoted

/-- Whatever a query notes or reports is placed at tokens of it. -/
theorem keeps_query (hlast : IsPlace whole last) : Keeps whole (query last) := by
  intro tokens noted htokens hnoted
  refine Within.bind ?_ (keeps_expression hlast heightLimit htokens hnoted)
  intro first rest noted hrest hnoted
  have hstart := isPlace_start hlast htokens first
  exact keeps_queryFrom hlast rest hstart hrest hnoted

end Reader

/-! ## Queries as texts -/

/-- Only blank queries have no tokens. -/
theorem tokens_eq_nil_iff (raw : String) : tokens raw = [] ↔ Text.isAllBlank raw = true := by
  rw [Text.isAllBlank_iff]
  constructor
  · intro hnil c hc
    obtain ⟨spans, hcovers⟩ := exists_covers_tokens raw
    have hspans : spans = [] := by
      rw [← List.forall₂_nil_left_iff, ← hnil]
      exact hcovers.standsIn
    obtain ⟨i, hi⟩ := List.mem_iff_getElem?.mp hc
    exact hcovers.outside i c (Nat.zero_le i) hi (by simp [hspans])
  · intro hblank
    by_contra hne
    obtain ⟨token, hmem⟩ := List.exists_mem_of_ne_nil _ hne
    obtain ⟨c, hc, hvisible⟩ := exists_visible_of_mem_tokens hmem
    rw [hblank c (List.mem_of_getElem? hc)] at hvisible
    contradiction

/-- What a query leads to: a blank one says nothing, and any other one is read to its end or up to
the fault that ends the reading. -/
inductive Parsed.Results (raw : String) : Parsed → Prop
  | blank : tokens raw = [] → Results raw ⟨.rawTerm raw, [.emptyQuery]⟩
  | read (tree : Query) {noted : List SyntaxError} :
    tokens raw ≠ [] → Reader.Noted (tokens raw) noted → Results raw ⟨tree, noted.reverse⟩
  | failed {fault : SyntaxError} {noted : List SyntaxError} :
    tokens raw ≠ [] → fault.Ends (tokens raw) → Reader.Noted (tokens raw) noted →
    Results raw ⟨.rawTerm raw, noted.reverse ++ [fault]⟩

/-- Every query leads to one of the three results. -/
theorem results_parse (raw : String) : Parsed.Results raw (parse raw) := by
  rw [parse]
  cases hlast : (tokens raw).getLast? with
  | none => exact .blank (List.getLast?_eq_none_iff.mp hlast)
  | some last =>
    have hmem : last ∈ tokens raw := List.mem_of_getLast? hlast
    have hne : tokens raw ≠ [] := List.ne_nil_of_mem hmem
    have hnone : Reader.Noted (tokens raw) [] := by
      intro fault hfault
      simp at hfault
    have hwithin := Reader.keeps_query ⟨last, hmem, rfl⟩ (List.Subset.refl (tokens raw)) hnone
    dsimp only
    generalize Reader.query last.position (tokens raw) [] = step at hwithin ⊢
    cases hwithin with
    | done hrest hnoted => exact .read _ hne hnoted
    | failed hfault hnoted =>
      dsimp only
      rw [List.reverse_cons]
      exact .failed hne hfault hnoted

/-- Only blank queries are reported to be empty. -/
theorem errors_eq_emptyQuery_iff (raw : String) :
    (parse raw).errors = [.emptyQuery] ↔ Text.isAllBlank raw = true := by
  rw [← tokens_eq_nil_iff]
  have hresults := results_parse raw
  generalize parse raw = parsed at hresults ⊢
  cases hresults with
  | blank hnil => exact iff_of_true rfl hnil
  | @read tree noted hne hnoted =>
    refine iff_of_false ?_ hne
    intro h
    have hmem : SyntaxError.emptyQuery ∈ noted.reverse := by
      rw [show noted.reverse = [.emptyQuery] from h]
      exact List.mem_singleton_self _
    have hfatal := (hnoted _ (List.mem_reverse.mp hmem)).1
    contradiction
  | @failed fault noted hne hfault hnoted =>
    refine iff_of_false ?_ hne
    intro h
    have hlast := congrArg List.getLast? h
    rw [List.getLast?_concat, List.getLast?_singleton, Option.some.injEq] at hlast
    exact hfault.ne_emptyQuery hlast

/-- Every fault with a position is reported for a token of the query. -/
theorem placedAt_of_mem_errors {raw : String} {fault : SyntaxError}
    (h : fault ∈ (parse raw).errors) : fault.PlacedAt (tokens raw) := by
  have hresults := results_parse raw
  generalize parse raw = parsed at hresults h
  cases hresults with
  | blank hnil =>
    intro position hposition
    rw [List.mem_singleton.mp h] at hposition
    contradiction
  | read tree hne hnoted => exact (hnoted fault (List.mem_reverse.mp h)).2
  | failed hne hfault hnoted =>
    rcases List.mem_append.mp h with h | h
    · exact (hnoted fault (List.mem_reverse.mp h)).2
    · rw [List.mem_singleton.mp h]
      exact hfault.placed

/-- Every query either has no other faults than parentheses without partners, or exactly one that
is reported last, with the whole query as one term.  A query is reported to be empty exactly if it
is blank.  Where a fault has a position, a token of the query stands there that fits it, at a
character that is not blank. -/
theorem parse_errors_placed (raw : String) :
    ((∀ fault ∈ (parse raw).errors, fault.IsUnpaired) ∨
        ∃ noted fault, (parse raw).errors = noted ++ [fault] ∧
          (∀ earlier ∈ noted, earlier.IsUnpaired) ∧ ¬ fault.IsUnpaired ∧
          (parse raw).tree = .term (Text.trim raw)) ∧
      ((parse raw).errors = [.emptyQuery] ↔ Text.isAllBlank raw = true) ∧
      ∀ fault ∈ (parse raw).errors, ∀ position, fault.position? = some position →
        ∃ token ∈ tokens raw, token.position = position ∧ fault.Fits token ∧
          ∃ h : position < raw.toList.length, Text.isBlank raw.toList[position] = false := by
  refine ⟨?_, errors_eq_emptyQuery_iff raw, ?_⟩
  · have hresults := results_parse raw
    generalize parse raw = parsed at hresults ⊢
    cases hresults with
    | blank hnil =>
      right
      exact ⟨[], .emptyQuery, rfl, by simp, by simp [SyntaxError.IsUnpaired], rfl⟩
    | read tree hne hnoted =>
      left
      intro fault hfault
      exact fault.isFatal_eq_false_iff.mp (hnoted fault (List.mem_reverse.mp hfault)).1
    | @failed fault noted hne hfault hnoted =>
      right
      refine ⟨noted.reverse, fault, rfl, ?_, ?_, rfl⟩
      · intro earlier hearlier
        exact earlier.isFatal_eq_false_iff.mp (hnoted earlier (List.mem_reverse.mp hearlier)).1
      · rw [← SyntaxError.isFatal_eq_false_iff, hfault.isFatal]
        simp
  · intro fault hfault position hposition
    obtain ⟨token, hmem, rfl, hfits⟩ := placedAt_of_mem_errors hfault position hposition
    obtain ⟨c, hc, hvisible⟩ := exists_visible_of_mem_tokens hmem
    obtain ⟨hlt, rfl⟩ := List.getElem?_eq_some_iff.mp hc
    exact ⟨token, hmem, rfl, hfits, hlt, hvisible⟩

/-- Two parentheses are noted before a field without a value ends the reading. -/
example : parse " a) b)(c: " =
    ⟨.term "a) b)(c:", [.unmatchedClosing 2, .unmatchedClosing 5, .missingFieldValue "c" 7]⟩ := by
  decide +kernel

end TextSearch
