import TextSearch.Proofs.Query.Reading
import TextSearch.Proofs.Query.Taking

/-!
# Parentheses without partners

Where a query is read to its end, what is wrong with it is told by its parentheses alone: they are
matched by a stack, and the ones that are left are the faults.  The reader has no such stack.  It
notes a closing parenthesis where no group is open, between two expressions; and it notes a group
that is not closed at the end of the tokens, on the way out of it.

Main results:

- Theorem `Taken.exists_foldl`: an expression leaves the open groups before it as they are, and
  opens those that it notes.
- Theorem `noted_of_query`: the loop over expressions keeps account of the parentheses.
- Theorem `pairwise_tokens`: tokens stand at ascending positions.
- Theorem `errors_eq_unmatched`: the faults of a query that is read to its end.
-/

namespace TextSearch

/-! ## Matching by a stack -/

/-- Parentheses that have no partner among the tokens so far. -/
structure Unmatched where
  /-- The positions of the groups that are open, the innermost first. -/
  opened : List Nat
  /-- The positions of the closing parentheses that close no group, the first of them first. -/
  stray : List Nat
  deriving DecidableEq, Repr

namespace Unmatched

/-- One more token.  An opening parenthesis goes on the stack, and a closing one takes the last of
these off it. -/
def next (state : Unmatched) (token : Token) : Unmatched :=
  match token.symbol with
  | .opening => { state with opened := token.position :: state.opened }
  | .closing =>
    match state.opened with
    | [] => { state with stray := state.stray ++ [token.position] }
    | _ :: outer => { state with opened := outer }
  | _ => state

/-- The parentheses among the tokens that have no partner. -/
def ofTokens (tokens : List Token) : Unmatched :=
  tokens.foldl next ⟨[], []⟩

/-- The faults that they are, latest first: groups are noted from the inside out, behind all closing
parentheses. -/
def faults (state : Unmatched) : List SyntaxError :=
  (state.opened.map SyntaxError.unclosedGroup).reverse ++
    (state.stray.map SyntaxError.unmatchedClosing).reverse

theorem next_opening (state : Unmatched) (position : Nat) :
    state.next ⟨.opening, position⟩ = { state with opened := position :: state.opened } :=
  rfl

/-- A closing parenthesis takes the latest open one from the stack. -/
theorem next_closing_cons (position : Nat) (outer stray : List Nat) (place : Nat) :
    next ⟨position :: outer, stray⟩ ⟨.closing, place⟩ = ⟨outer, stray⟩ :=
  rfl

/-- A closing parenthesis with nothing open is stray. -/
theorem next_closing_nil (stray : List Nat) (place : Nat) :
    next ⟨[], stray⟩ ⟨.closing, place⟩ = ⟨[], stray ++ [place]⟩ :=
  rfl

theorem next_of_ne {token : Token} (hopening : token.symbol ≠ .opening)
    (hclosing : token.symbol ≠ .closing) (state : Unmatched) : state.next token = state := by
  rw [next]
  split
  · contradiction
  · contradiction
  · rfl

theorem next_of_leaf {token : Token} {value : Query} (h : Reader.leaf? token.symbol = some value)
    (state : Unmatched) : state.next token = state := by
  apply next_of_ne
  · intro hopening
    simp [hopening, Reader.leaf?] at h
  · intro hclosing
    simp [hclosing, Reader.leaf?] at h

/-- Matching goes on behind the tokens that were matched before. -/
theorem ofTokens_append (before tokens : List Token) :
    ofTokens (before ++ tokens) = tokens.foldl next (ofTokens before) := by
  rw [ofTokens, List.foldl_append, ofTokens]

/-- The parentheses that are left stand in the order of their tokens; on the stack this order is
reversed. -/
theorem sublist_positions (tokens : List Token) :
    (ofTokens tokens).opened.reverse.Sublist (tokens.map Token.position) ∧
      (ofTokens tokens).stray.Sublist (tokens.map Token.position) := by
  induction tokens using List.reverseRecOn with
  | nil => exact ⟨.slnil, .slnil⟩
  | append_singleton tokens token ih =>
    have hlast := List.Sublist.refl [token.position]
    have hbefore := List.sublist_append_left (tokens.map Token.position) [token.position]
    rw [ofTokens_append, List.foldl_cons, List.foldl_nil, List.map_append, List.map_singleton]
    generalize ofTokens tokens = state at ih ⊢
    rcases state with ⟨opened, stray⟩
    rcases token with ⟨symbol, position⟩
    by_cases hopening : symbol = .opening
    · subst hopening
      rw [next_opening, List.reverse_cons]
      exact ⟨ih.1.append hlast, ih.2.trans hbefore⟩
    · by_cases hclosing : symbol = .closing
      · subst hclosing
        cases opened with
        | nil =>
          rw [next_closing_nil]
          exact ⟨List.nil_sublist _, ih.2.append hlast⟩
        | cons place outer =>
          rw [next_closing_cons]
          have houter : outer.reverse.Sublist (place :: outer).reverse := by simp
          exact ⟨(houter.trans ih.1).trans hbefore, ih.2.trans hbefore⟩
      · rw [next_of_ne hopening hclosing]
        exact ⟨ih.1.trans hbefore, ih.2.trans hbefore⟩

end Unmatched

/-! ## Expressions -/

namespace Reader

/-- An expression leaves the groups that are open before it as they are, and opens those that it
notes; it has no closing parenthesis without a group. -/
theorem Taken.exists_foldl {tokens : List Token} {faults : List SyntaxError}
    (h : Taken tokens faults) :
    ∃ opened, faults = (opened.map SyntaxError.unclosedGroup).reverse ∧
      ∀ state : Unmatched, tokens.foldl Unmatched.next state =
        { state with opened := opened ++ state.opened } := by
  induction h with
  | leaf hleaf =>
    refine ⟨[], rfl, fun state => ?_⟩
    simp [Unmatched.next_of_leaf hleaf]
  | field name position hleaf =>
    refine ⟨[], rfl, fun state => ?_⟩
    simp [Unmatched.next_of_leaf hleaf, Unmatched.next_of_ne]
  | not position htaken ih =>
    obtain ⟨opened, hfaults, hfold⟩ := ih
    refine ⟨opened, hfaults, fun state => ?_⟩
    simp [hfold, Unmatched.next_of_ne]
  | group position place htaken ih =>
    obtain ⟨opened, hnone, hfold⟩ := ih
    have hopened : opened = [] := by simpa using hnone
    refine ⟨[], rfl, fun state => ?_⟩
    simp [hfold, hopened, Unmatched.next_opening, Unmatched.next_closing_cons]
  | unclosed position htaken ih =>
    obtain ⟨opened, hfaults, hfold⟩ := ih
    refine ⟨opened ++ [position], by simp [hfaults], fun state => ?_⟩
    simp [hfold, Unmatched.next_opening]
  | beside hbefore hnext ihBefore ihNext =>
    obtain ⟨opened, hnone, hfold⟩ := ihBefore
    obtain ⟨opened', hfaults, hfold'⟩ := ihNext
    have hopened : opened = [] := by simpa using hnone
    refine ⟨opened', hfaults, fun state => ?_⟩
    simp [hfold, hfold', hopened]
  | joined connective position hbefore hnext ihBefore ihNext =>
    obtain ⟨opened, hnone, hfold⟩ := ihBefore
    obtain ⟨opened', hfaults, hfold'⟩ := ihNext
    have hopened : opened = [] := by simpa using hnone
    refine ⟨opened', hfaults, fun state => ?_⟩
    cases connective <;> simp [hfold, hfold', hopened, Connective.symbol, Unmatched.next_of_ne]

/-! ## Whole queries -/

/-- What has been noted is what the parentheses before the rest of the tokens are without partners;
a group is open only where no tokens are left. -/
structure Accounted (whole tokens : List Token) (noted : List SyntaxError) : Prop where
  exists_before : ∃ before, whole = before ++ tokens ∧
    noted = (Unmatched.ofTokens before).faults ∧
    ((Unmatched.ofTokens before).opened ≠ [] → tokens = [])

namespace Accounted

variable {whole tokens rest : List Token} {noted noted' : List SyntaxError}

theorem start (whole : List Token) : Accounted whole whole [] :=
  ⟨[], rfl, rfl, fun h => absurd rfl h⟩

/-- Where tokens are left, no group is open. -/
theorem exists_before_of_ne_nil (h : Accounted whole tokens noted) (htokens : tokens ≠ []) :
    ∃ before stray, whole = before ++ tokens ∧ Unmatched.ofTokens before = ⟨[], stray⟩ ∧
      noted = (stray.map SyntaxError.unmatchedClosing).reverse := by
  obtain ⟨before, hwhole, hnoted, hend⟩ := h.exists_before
  have hopened : (Unmatched.ofTokens before).opened = [] := by
    by_contra hne
    exact htokens (hend hne)
  refine ⟨before, (Unmatched.ofTokens before).stray, hwhole, ?_, ?_⟩
  · rw [← hopened]
  · simp [hnoted, Unmatched.faults, hopened]

/-- A closing parenthesis between two expressions closes no group. -/
theorem closing {place : Nat} (h : Accounted whole (⟨.closing, place⟩ :: tokens) noted) :
    Accounted whole tokens (.unmatchedClosing place :: noted) := by
  obtain ⟨before, stray, rfl, hstate, rfl⟩ := h.exists_before_of_ne_nil (List.cons_ne_nil _ _)
  have hnext : Unmatched.ofTokens (before ++ [⟨.closing, place⟩]) = ⟨[], stray ++ [place]⟩ := by
    simp [Unmatched.ofTokens_append, hstate, Unmatched.next_closing_nil]
  refine ⟨before ++ [⟨.closing, place⟩], by simp, ?_, ?_⟩
  · simp [hnext, Unmatched.faults]
  · simp [hnext]

/-- An expression is accounted for by what it notes. -/
theorem took (h : Accounted whole tokens noted) (htook : Took tokens noted rest noted') :
    Accounted whole rest noted' := by
  obtain ⟨before, stray, rfl, hstate, rfl⟩ := h.exists_before_of_ne_nil htook.tokens_ne_nil
  obtain ⟨taken, faults, htaken, rfl, rfl, hend⟩ := htook.exists_taken
  obtain ⟨opened, hfaults, hfold⟩ := htaken.exists_foldl
  have hnext : Unmatched.ofTokens (before ++ taken) = ⟨opened, stray⟩ := by
    simp [Unmatched.ofTokens_append, hstate, hfold]
  refine ⟨before ++ taken, by simp, ?_, ?_⟩
  · simp [hnext, Unmatched.faults, hfaults]
  · intro hopened
    apply hend
    simpa [hfaults, hnext] using hopened

/-- At the end, what has been noted is what the parentheses of all tokens are without partners. -/
theorem noted_eq (h : Accounted whole [] noted) : noted = (Unmatched.ofTokens whole).faults := by
  obtain ⟨before, hwhole, hnoted, -⟩ := h.exists_before
  rw [hwhole, List.append_nil]
  exact hnoted

end Accounted

/-- A query that is read to its end notes its parentheses without partners. -/
theorem noted_of_query {last : Nat} {tokens rest : List Token} {part : Part}
    {noted : List SyntaxError} (h : query last tokens [] = .done part rest noted) :
    noted = (Unmatched.ofTokens tokens).faults := by
  rw [query] at h
  obtain ⟨first, after, noted₁, hfirst, h⟩ := Step.exists_of_bind h
  have hstart := (Accounted.start tokens).took (took_expression hfirst)
  obtain ⟨chain, hend, -⟩ := exists_of_queryFrom
    (fun _ tokens' noted' => Accounted tokens tokens' noted') Accounted.closing
    (fun haccounted hread _ => haccounted.took (took_expression hread)) hstart (Nat.le_refl _) h
  exact hend.noted_eq

end Reader

/-! ## Positions -/

/-- Tokens stand at ascending positions. -/
theorem pairwise_tokensFrom {found : List Token} {offset : Nat} {cs : List Char}
    (hfound : found.reverse.Pairwise fun a b => a.position < b.position)
    (hbelow : ∀ token ∈ found, token.position < offset) :
    (tokensFrom found offset cs).Pairwise fun a b => a.position < b.position := by
  fun_induction tokensFrom found offset cs with
  | case1 found offset => exact hfound
  | case2 found offset c rest hblank ih =>
    apply ih hfound
    intro token hmem
    exact Nat.lt_succ_of_lt (hbelow token hmem)
  | case3 found offset c rest hblank symbol width hread ih =>
    have hwidth : 0 < width := by
      have hpositive := Symbol.width_pos c rest
      rw [hread] at hpositive
      exact hpositive
    apply ih
    · rw [List.reverse_cons, List.pairwise_append]
      refine ⟨hfound, List.pairwise_singleton _ _, ?_⟩
      simpa using hbelow
    · intro token hmem
      rcases List.mem_cons.mp hmem with rfl | hmem
      · exact Nat.lt_add_of_pos_right hwidth
      · exact Nat.lt_add_right width (hbelow token hmem)

/-- Tokens stand at ascending positions. -/
theorem pairwise_tokens (raw : String) :
    (tokens raw).Pairwise fun a b => a.position < b.position :=
  pairwise_tokensFrom .nil (by simp)

/-- If nothing but parentheses without partners is wrong with a query, then its faults are the
closing parentheses that no group is open for, in ascending order of their positions, and then the
groups that are not closed, in descending order. -/
theorem errors_eq_unmatched (raw : String)
    (h : ∀ fault ∈ (parse raw).errors, fault.isFatal = false) :
    (parse raw).errors =
        (Unmatched.ofTokens (tokens raw)).stray.map .unmatchedClosing ++
          (Unmatched.ofTokens (tokens raw)).opened.map .unclosedGroup ∧
      (Unmatched.ofTokens (tokens raw)).stray.Pairwise (· < ·) ∧
      (Unmatched.ofTokens (tokens raw)).opened.Pairwise (· > ·) := by
  obtain ⟨part, rest, noted, hread, hparse⟩ := Reader.exists_readText_of_not_fatal h
  obtain ⟨last, hquery⟩ := Reader.exists_query_of_readText hread
  have hpositions : ((tokens raw).map Token.position).Pairwise (· < ·) :=
    List.pairwise_map.mpr (pairwise_tokens raw)
  have hsublists := Unmatched.sublist_positions (tokens raw)
  refine ⟨?_, hpositions.sublist hsublists.2, ?_⟩
  · rw [hparse, Reader.noted_of_query hquery]
    simp [Unmatched.faults]
  · exact List.pairwise_reverse.mp (hpositions.sublist hsublists.1)

/-- Two closing parentheses too many, and two groups that are not closed, around groups that are. -/
theorem errors_eq_unmatched_both :
    (∀ fault ∈ (parse "a) (b OR c)) d (e (NOT f) (g").errors, fault.isFatal = false) ∧
      (parse "a) (b OR c)) d (e (NOT f) (g").errors =
        [.unmatchedClosing 1, .unmatchedClosing 11, .unclosedGroup 26, .unclosedGroup 15] := by
  have hrecoverable :
      ∀ fault ∈ (parse "a) (b OR c)) d (e (NOT f) (g").errors, fault.isFatal = false := by
    decide +kernel
  refine ⟨hrecoverable, ?_⟩
  rw [(errors_eq_unmatched _ hrecoverable).1]
  decide +kernel

end TextSearch
