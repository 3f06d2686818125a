import TextSearch.Proofs.Query.Operands
import TextSearch.Proofs.Query.Reading

/-!
# Reading canonical texts

The tree of a query is written as a canonical text and read again.  The grammar does not allow a
negation directly under a negation, and parentheses are written around binary nodes only; so a tree
comes back exactly when it has no double negation.  A query that cannot be read is one term, its
trimmed text, and the trimmed text cannot be read either.

Main results:

- Theorems `negation_of_symbols` and `failed_of_symbols`: what the symbols of a legible tree are
  read as, whatever stands behind them.
- Theorems `parse_canonical` and `parse_canonical_ne`: a legible tree comes back from its canonical
  text if it has no double negation, and does not if it has one.
- Theorem `parse_canonical_iff`: which trees come back from their canonical texts.
-/

namespace TextSearch
namespace Reader

/-! ## Reading a canonical text -/

/-- Tokens whose symbols begin with a given one begin with a token of that symbol. -/
theorem map_symbol_eq_cons {ts : List Token} {symbol : Symbol} {symbols : List Symbol}
    (h : ts.map Token.symbol = symbol :: symbols) :
    ∃ position rest, ts = ⟨symbol, position⟩ :: rest ∧ rest.map Token.symbol = symbols := by
  rcases List.map_eq_cons_iff.mp h with ⟨token, rest, rfl, hsymbol, hrest⟩
  exact ⟨token.position, rest, by rw [← hsymbol], hrest⟩

/-- The tokens of a binary node: a parenthesis, the left operand, the connective, the right operand
and a parenthesis. -/
theorem exists_tokens_join {connective : Connective} {left right : Query} {ts : List Token}
    (h : ts.map Token.symbol = (connective.join left right).symbols) :
    ∃ (opened joined closed : Nat) (lefts rights : List Token),
      ts = ⟨.opening, opened⟩ :: (lefts ++ ⟨connective.symbol, joined⟩ ::
        (rights ++ [⟨.closing, closed⟩])) ∧
      lefts.map Token.symbol = left.symbols ∧ rights.map Token.symbol = right.symbols := by
  rw [Query.symbols_join] at h
  rcases map_symbol_eq_cons h with ⟨opened, inner, rfl, hinner⟩
  rcases List.map_eq_append_iff.mp hinner with ⟨lefts, others, rfl, hlefts, hothers⟩
  rcases map_symbol_eq_cons hothers with ⟨joined, behind, rfl, hbehind⟩
  rcases List.map_eq_append_iff.mp hbehind with ⟨rights, ends, rfl, hrights, hends⟩
  rcases map_symbol_eq_cons hends with ⟨closed, nothing, rfl, hnothing⟩
  rw [List.map_eq_nil_iff.mp hnothing]
  exact ⟨opened, joined, closed, lefts, rights, rfl, hlefts, hrights⟩

/-- A tree that is no negation is not written with the word *not* in front. -/
theorem negation_of_not_isNegation {tree : Query} (h : tree.isNegation = false) {ts : List Token}
    (hts : ts.map Token.symbol = tree.symbols) (group : Nat → Reader Part) (rest : List Token)
    (noted : List SyntaxError) :
    negation group (ts ++ rest) noted = primary group (ts ++ rest) noted := by
  obtain ⟨symbol, others, hsymbols, hnot⟩ : ∃ symbol others,
      tree.symbols = symbol :: others ∧ symbol ≠ .not := by
    cases tree with
    | not operand => contradiction
    | _ => exact ⟨_, _, rfl, by simp⟩
  rw [hsymbols] at hts
  rcases map_symbol_eq_cons hts with ⟨position, others, rfl, -⟩
  exact negation_of_ne_not hnot position _ noted

theorem tokens_join_append (opened joined closed : Nat) (symbol : Symbol)
    (lefts rights rest : List Token) :
    (⟨.opening, opened⟩ :: (lefts ++ ⟨symbol, joined⟩ :: (rights ++ [⟨.closing, closed⟩]))) ++
        rest =
      (⟨.opening, opened⟩ : Token) ::
        (lefts ++ ⟨symbol, joined⟩ :: (rights ++ ⟨.closing, closed⟩ :: rest)) := by
  simp

/-- An opening parenthesis leads through negation and primary to the group. -/
theorem negation_opening (last inner position : Nat) (rest : List Token)
    (noted : List SyntaxError) :
    negation (groups last (inner + 1)) (⟨.opening, position⟩ :: rest) noted =
      inGroup (disjunction (groups last inner) last) position rest noted := by
  rw [← expression_eq]
  rfl

/-- A group whose inside stops before a closing parenthesis ends behind it. -/
theorem inGroup_of_done {inside : Reader Part} {ts rest : List Token}
    {noted noted' : List SyntaxError} {part : Part} {closed : Nat}
    (h : inside ts noted = .done part (⟨.closing, closed⟩ :: rest) noted') {opened : Nat} :
    inGroup inside opened ts noted = .done part rest noted' := by
  rw [inGroup, h]
  rfl

/-- A group fails as its inside does. -/
theorem inGroup_of_failed {inside : Reader Part} {ts : List Token}
    {noted noted' : List SyntaxError} {fault : SyntaxError}
    (h : inside ts noted = .failed fault noted') {opened : Nat} :
    inGroup inside opened ts noted = .failed fault noted' := by
  rw [inGroup, h]

/-- A legible tree without double negations is read from its symbols, whatever stands behind. -/
theorem negation_of_symbols {tree : Query} (h : tree.Legible)
    (hdouble : tree.hasDoubleNegation = false) (hlimit : tree.height ≤ heightLimit)
    (last : Nat) {levels : Nat} (hlevels : tree.height ≤ levels + 1) {ts : List Token}
    (hts : ts.map Token.symbol = tree.symbols) (rest : List Token) (noted : List SyntaxError) :
    negation (groups last levels) (ts ++ rest) noted =
      .done ⟨tree, tree.height⟩ rest noted := by
  induction h generalizing levels ts rest noted with
  | @leaf symbol value hspelled hleaf =>
    rw [Query.symbols_of_leaf hleaf] at hts
    rcases map_symbol_eq_cons hts with ⟨position, others, rfl, hothers⟩
    rw [List.map_eq_nil_iff.mp hothers, List.cons_append, List.nil_append,
      negation_of_ne_not (ne_not_of_leaf hleaf), primary_of_leaf hleaf, Query.height_of_leaf hleaf]
  | @field name symbol value hname hspelled hleaf =>
    rw [Query.symbols, Query.symbols_of_leaf hleaf] at hts
    rcases map_symbol_eq_cons hts with ⟨position, others, rfl, hothers⟩
    rcases map_symbol_eq_cons hothers with ⟨place, nothing, rfl, hnothing⟩
    rw [List.map_eq_nil_iff.mp hnothing, Query.height, Query.height_of_leaf hleaf]
    simp only [List.cons_append, List.nil_append, negation, primary, fieldValue, hleaf]
  | @not operand hoperand ih =>
    rw [Query.symbols] at hts
    rcases map_symbol_eq_cons hts with ⟨position, others, rfl, hothers⟩
    rw [Query.hasDoubleNegation, Bool.or_eq_false_iff] at hdouble
    rw [Query.height] at hlimit hlevels
    have hread := ih hdouble.2 (by omega) (by omega : operand.height ≤ levels + 1) hothers
      rest noted
    rw [negation_of_not_isNegation hdouble.1 hothers] at hread
    have hlow : ¬ operand.height ≥ heightLimit := by omega
    rw [List.cons_append, negation, hread]
    dsimp only
    rw [if_neg hlow, Query.height]
  | @join connective left right hleft hright ihLeft ihRight =>
    rw [Query.hasDoubleNegation_join, Bool.or_eq_false_iff] at hdouble
    rw [Query.height_join] at hlimit hlevels
    rcases exists_tokens_join hts with ⟨opened, joined, closed, lefts, rights, rfl, hlefts, hrights⟩
    obtain ⟨inner, rfl⟩ : ∃ inner, levels = inner + 1 := by
      have hpositive := left.height_pos
      exact ⟨levels - 1, by omega⟩
    have hreadLeft := ihLeft hdouble.1 (by omega) (by omega : left.height ≤ inner + 1) hlefts
      (⟨connective.symbol, joined⟩ :: (rights ++ ⟨.closing, closed⟩ :: rest)) noted
    have hreadRight := ihRight hdouble.2 (by omega) (by omega : right.height ≤ inner + 1) hrights
      (⟨.closing, closed⟩ :: rest) noted
    have hpair := disjunction_of_pair last connective joined hreadLeft hreadRight
      (endsDisjunction_closing closed rest) hlimit
    rw [tokens_join_append, negation_opening, inGroup_of_done hpair, Query.height_join]

/-- A legible tree with a double negation is not read from its symbols. -/
theorem failed_of_symbols {tree : Query} (h : tree.Legible)
    (hdouble : tree.hasDoubleNegation = true) (hlimit : tree.height ≤ heightLimit)
    (last : Nat) {levels : Nat} (hlevels : tree.height ≤ levels + 1) {ts : List Token}
    (hts : ts.map Token.symbol = tree.symbols) (rest : List Token) (noted : List SyntaxError) :
    ∃ fault noted', negation (groups last levels) (ts ++ rest) noted = .failed fault noted' := by
  induction h generalizing levels ts rest noted with
  | @leaf symbol value hspelled hleaf =>
    rw [Query.hasDoubleNegation_of_leaf hleaf] at hdouble
    contradiction
  | @field name symbol value hname hspelled hleaf =>
    rw [Query.hasDoubleNegation, Query.hasDoubleNegation_of_leaf hleaf] at hdouble
    contradiction
  | @not operand hoperand ih =>
    rw [Query.symbols] at hts
    rcases map_symbol_eq_cons hts with ⟨position, others, rfl, hothers⟩
    rw [Query.hasDoubleNegation, Bool.or_eq_true] at hdouble
    rw [Query.height] at hlimit hlevels
    by_cases hnegation : operand.isNegation = true
    · -- A primary cannot begin with the second of two words *not*.
      cases operand with
      | not inner =>
        rw [Query.symbols] at hothers
        rcases map_symbol_eq_cons hothers with ⟨place, others, rfl, -⟩
        exact ⟨.unexpectedToken (Symbol.describe .not) place, noted, rfl⟩
      | _ => contradiction
    · obtain ⟨fault, noted', hfailed⟩ := ih (hdouble.resolve_left hnegation) (by omega)
        (by omega : operand.height ≤ levels + 1) hothers rest noted
      rw [Bool.not_eq_true] at hnegation
      rw [negation_of_not_isNegation hnegation hothers] at hfailed
      rw [List.cons_append, negation, hfailed]
      exact ⟨fault, noted', rfl⟩
  | @join connective left right hleft hright ihLeft ihRight =>
    rw [Query.hasDoubleNegation_join, Bool.or_eq_true] at hdouble
    rw [Query.height_join] at hlimit hlevels
    rcases exists_tokens_join hts with ⟨opened, joined, closed, lefts, rights, rfl, hlefts, hrights⟩
    obtain ⟨inner, rfl⟩ : ∃ inner, levels = inner + 1 := by
      have hpositive := left.height_pos
      exact ⟨levels - 1, by omega⟩
    rw [tokens_join_append, negation_opening]
    by_cases hdoubleLeft : left.hasDoubleNegation = true
    · obtain ⟨fault, noted', hfailed⟩ := ihLeft hdoubleLeft (by omega)
        (by omega : left.height ≤ inner + 1) hlefts
        (⟨connective.symbol, joined⟩ :: (rights ++ ⟨.closing, closed⟩ :: rest)) noted
      exact ⟨fault, noted', inGroup_of_failed (disjunction_of_failed hfailed)⟩
    · obtain ⟨fault, noted', hfailed⟩ := ihRight (hdouble.resolve_left hdoubleLeft) (by omega)
        (by omega : right.height ≤ inner + 1) hrights (⟨.closing, closed⟩ :: rest) noted
      rw [Bool.not_eq_true] at hdoubleLeft
      have hreadLeft := negation_of_symbols hleft hdoubleLeft (by omega) last
        (by omega : left.height ≤ inner + 1) hlefts
        (⟨connective.symbol, joined⟩ :: (rights ++ ⟨.closing, closed⟩ :: rest)) noted
      have hpair := disjunction_of_failed_pair last connective joined hreadLeft hfailed
        (by dsimp only; omega)
      exact ⟨fault, noted', inGroup_of_failed hpair⟩

/-! ## Whole texts -/

/-- The canonical text of a legible tree has the symbols of the tree. -/
theorem map_symbol_tokens_canonical {tree : Query} (h : tree.Legible) :
    (tokens tree.canonical).map Token.symbol = tree.symbols := by
  have hscan := Symbol.scan_canonical h Symbol.Follows.nothing
  rw [List.append_nil, Symbol.scan_nil, List.append_nil] at hscan
  rw [map_symbol_tokens, hscan]

/-- The canonical text of a legible tree has tokens. -/
theorem exists_getLast?_canonical {tree : Query} (h : tree.Legible) :
    ∃ last, (tokens tree.canonical).getLast? = some last := by
  apply Option.ne_none_iff_exists'.mp
  rw [Ne, List.getLast?_eq_none_iff]
  intro hnil
  have hsymbols := map_symbol_tokens_canonical h
  rw [hnil] at hsymbols
  cases tree <;> rw [Query.symbols] at hsymbols <;> simp at hsymbols

/-- The canonical text of a legible tree without double negations is read as the tree, without a
fault. -/
theorem readText_canonical {tree : Query} (h : tree.Legible)
    (hdouble : tree.hasDoubleNegation = false) (hlimit : tree.height ≤ heightLimit) :
    readText tree.canonical = .done ⟨tree, tree.height⟩ [] [] := by
  rcases exists_getLast?_canonical h with ⟨last, hlast⟩
  have hread := negation_of_symbols h hdouble hlimit last.position
    (Nat.le_succ_of_le hlimit) (map_symbol_tokens_canonical h) [] []
  rw [List.append_nil] at hread
  have hexpression : expression last.position heightLimit (tokens tree.canonical) [] =
      .done ⟨tree, tree.height⟩ [] [] := by
    rw [expression_eq]
    apply disjunction_of_negation hread _ hlimit
    intro token htoken
    simp at htoken
  rw [readText, hlast]
  dsimp only
  rw [query, hexpression]
  exact finish_start hlimit _ _ _

/-- The canonical text of a legible tree with a double negation cannot be read. -/
theorem failed_of_hasDoubleNegation {tree : Query} (h : tree.Legible)
    (hdouble : tree.hasDoubleNegation = true) (hlimit : tree.height ≤ heightLimit) :
    ∃ fault noted, readText tree.canonical = .failed fault noted := by
  rcases exists_getLast?_canonical h with ⟨last, hlast⟩
  obtain ⟨fault, noted, hfailed⟩ := failed_of_symbols h hdouble hlimit last.position
    (Nat.le_succ_of_le hlimit) (map_symbol_tokens_canonical h) [] []
  rw [List.append_nil] at hfailed
  rw [readText, hlast]
  dsimp only
  rw [query, expression_eq, disjunction_of_failed hfailed]
  exact ⟨fault, noted, rfl⟩

end Reader

/-- A legible tree without double negations comes back from its canonical text. -/
theorem parse_canonical {tree : Query} (h : tree.Legible)
    (hdouble : tree.hasDoubleNegation = false) (hlimit : tree.height ≤ heightLimit) :
    parse tree.canonical = ⟨tree, []⟩ := by
  rw [Reader.parse_eq, Reader.readText_canonical h hdouble hlimit]
  rfl

/-- In place of a legible tree with a double negation comes a single term. -/
theorem parse_canonical_ne {tree : Query} (h : tree.Legible)
    (hdouble : tree.hasDoubleNegation = true) (hlimit : tree.height ≤ heightLimit) :
    (parse tree.canonical).tree ≠ tree := by
  rcases Reader.failed_of_hasDoubleNegation h hdouble hlimit with ⟨fault, noted, hfailed⟩
  rw [Reader.parse_eq, hfailed]
  intro hsame
  rw [← hsame] at hdouble
  contradiction

/-- The term that stands for a text that cannot be read comes back from the trimmed text. -/
theorem parse_trim_of_failed {raw : String} {fault : SyntaxError} {noted : List SyntaxError}
    (h : Reader.readText raw = .failed fault noted) :
    (parse (Text.trim raw)).tree = .rawTerm raw := by
  rcases Reader.failed_trim h with ⟨-, fault', noted', hagain⟩
  rw [Reader.parse_eq, hagain]
  dsimp only
  rw [Query.rawTerm, Text.trim_trim, Query.rawTerm]

/-- A parsed tree comes back from its canonical text exactly when no negation in it is negated
directly; and where the query could be read, the canonical text of such a tree is read without any
fault. -/
theorem parse_canonical_iff (raw : String) :
    ((parse (parse raw).tree.canonical).tree = (parse raw).tree ↔
      (parse raw).tree.hasDoubleNegation = false) ∧
    ((∀ fault ∈ (parse raw).errors, fault.isFatal = false) →
      (parse raw).tree.hasDoubleNegation = false →
      (parse (parse raw).tree.canonical).errors = []) := by
  have hraw := Reader.parse_eq raw
  cases hread : Reader.readText raw with
  | done part rest noted =>
    rw [hread] at hraw
    rcases Reader.legible_of_readText hread with ⟨hlegible, hheight⟩
    have hlimit := Reader.height_le_of_readText hread
    rw [hheight] at hlimit
    rw [hraw]
    dsimp only
    cases hdouble : part.tree.hasDoubleNegation with
    | false =>
      rw [parse_canonical hlegible hdouble hlimit]
      simp
    | true =>
      have hne := parse_canonical_ne hlegible hdouble hlimit
      simp [hne]
  | failed fault noted =>
    rw [hread] at hraw
    have htree : (parse raw).tree = .rawTerm raw := by
      rw [hraw]
    have hcanonical : (Query.rawTerm raw).canonical = Text.trim raw := rfl
    rw [htree, hcanonical]
    constructor
    · exact iff_of_true (parse_trim_of_failed hread) rfl
    · intro hrecoverable
      have hmem : fault ∈ (parse raw).errors := by
        rw [hraw]
        simp
      have hfatal := (Reader.failed_trim hread).1
      rw [hrecoverable fault hmem] at hfatal
      contradiction

/-- A group that is not closed is noted, and the tree comes back from its canonical text, where the
bracket is followed by the connective. -/
theorem parse_canonical_unclosed :
    (parse (parse "([a b").tree.canonical).errors = [] := by
  apply (parse_canonical_iff "([a b").2
  · have herrors : (parse "([a b").errors = [.unclosedGroup 0] := by decide +kernel
    rw [herrors]
    decide
  · decide +kernel

/-- A negation of a group can hold another negation. -/
example : (parse "NOT (NOT a)").tree = .not (.not (.term "a")) := by decide +kernel

end TextSearch
