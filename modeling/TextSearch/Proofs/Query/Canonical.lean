import TextSearch.Proofs.Query.Operands
import TextSearch.Proofs.Query.Scanning

/-!
# Canonical texts

The canonical text of a tree is scanned into the symbols that the tree is written with.  The danger
is a term that begins with an opening bracket: together with what is printed behind it, it must not
be taken for a range.  Behind an operand there is never a word *to*, because a right operand is
always followed by a closing parenthesis.

Main results:

- Theorem `range?_eq_none_of_follows`: no word together with what follows it in a canonical text is
  a range.
- Theorem `scan_canonical`: the canonical text of a legible tree is scanned into the symbols of the
  tree, whatever operands stand around it.
-/

namespace TextSearch

/-! ## Trees that can be written -/

namespace Connective

/-- The word of a connective in a canonical text. -/
def word : Connective → List Char
  | and => ['A', 'N', 'D']
  | or => ['O', 'R']

theorem word_ne_nil (connective : Connective) : connective.word ≠ [] := by
  cases connective <;> decide

/-- The words of the connectives have no blanks. -/
theorem not_blank_word (connective : Connective) :
    ∀ c ∈ connective.word, Text.isBlank c = false := by
  have hall : connective.word.all (fun c => !Text.isBlank c) = true := by
    cases connective <;> decide
  simpa using hall

end Connective

namespace Query

/-- The tree is a negation. -/
def isNegation : Query → Bool
  | not _ => true
  | _ => false

/-- Somewhere in the tree a negation is negated. -/
def hasDoubleNegation : Query → Bool
  | and left right => left.hasDoubleNegation || right.hasDoubleNegation
  | or left right => left.hasDoubleNegation || right.hasDoubleNegation
  | not operand => operand.isNegation || operand.hasDoubleNegation
  | field _ value => value.hasDoubleNegation
  | _ => false

/-- The symbols that a tree is written with. -/
def symbols : Query → List Symbol
  | term value => [.term value]
  | phrase value => [.phrase value]
  | wildcard pattern => [.wildcard pattern]
  | field name value => .field name :: value.symbols
  | range low high => [.range low high]
  | and left right => .opening :: (left.symbols ++ .and :: (right.symbols ++ [.closing]))
  | or left right => .opening :: (left.symbols ++ .or :: (right.symbols ++ [.closing]))
  | not operand => .not :: operand.symbols

/-- Trees that are put together from spelled symbols the way the grammar does it. -/
inductive Legible : Query → Prop
  | leaf {symbol : Symbol} {value : Query} :
    symbol.Spelled → Reader.leaf? symbol = some value → Legible value
  | field {name : String} {symbol : Symbol} {value : Query} :
    (Symbol.field name).Spelled → symbol.Spelled → Reader.leaf? symbol = some value →
    Legible (.field name value)
  | not {operand : Query} : Legible operand → Legible (.not operand)
  | join (connective : Connective) {left right : Query} :
    Legible left → Legible right → Legible (connective.join left right)

/-- A joined tree is written between parentheses, with its connective between the operands. -/
theorem symbols_join (connective : Connective) (left right : Query) :
    (connective.join left right).symbols =
      .opening :: (left.symbols ++ connective.symbol :: (right.symbols ++ [.closing])) := by
  cases connective <;> rfl

theorem hasDoubleNegation_join (connective : Connective) (left right : Query) :
    (connective.join left right).hasDoubleNegation =
      (left.hasDoubleNegation || right.hasDoubleNegation) := by
  cases connective <;> rfl

/-- A joined tree is one level higher than the higher operand. -/
theorem height_join (connective : Connective) (left right : Query) :
    (connective.join left right).height = max left.height right.height + 1 := by
  cases connective <;> rfl

theorem height_pos (tree : Query) : 0 < tree.height := by
  cases tree <;> simp [height]

/-- What a symbol stands for by itself has height one. -/
theorem height_of_leaf {symbol : Symbol} {value : Query}
    (h : Reader.leaf? symbol = some value) : value.height = 1 := by
  cases symbol <;> simp [Reader.leaf?] at h <;> subst h <;> rfl

theorem hasDoubleNegation_of_leaf {symbol : Symbol} {value : Query}
    (h : Reader.leaf? symbol = some value) : value.hasDoubleNegation = false := by
  cases symbol <;> simp [Reader.leaf?] at h <;> subst h <;> rfl

/-- What a symbol stands for by itself is written as that symbol. -/
theorem symbols_of_leaf {symbol : Symbol} {value : Query}
    (h : Reader.leaf? symbol = some value) : value.symbols = [symbol] := by
  cases symbol <;> simp [Reader.leaf?] at h <;> subst h <;> rfl

/-- The canonical text of a joined tree has a blank on each side of the connective. -/
theorem canonical_join (connective : Connective) (left right : Query) :
    (connective.join left right).canonical.toList =
      '(' :: (left.canonical.toList ++ ' ' :: (connective.word ++ ' ' ::
        (right.canonical.toList ++ [')']))) := by
  cases connective with
  | and =>
    rw [Connective.join, canonical]
    simp [Connective.word]
  | or =>
    rw [Connective.join, canonical]
    simp [Connective.word]

end Query

namespace Symbol

/-! ## What follows an operand -/

/-- A piece of text without blanks that cannot begin the keyword of a range. -/
structure IsDistinct (piece : List Char) : Prop where
  not_blank : ∀ c ∈ piece, Text.isBlank c = false
  letter : ∃ c ∈ piece, c.toLower ≠ 't' ∧ c.toLower ≠ 'o'

/-- What stands behind an operand in a canonical text. -/
inductive Follows : List Char → Prop
  | nothing : Follows []
  | closing {tail : List Char} : Follows tail → Follows (')' :: tail)
  | operand (connective : Connective) {piece : List Char} (rest : List Char) :
    IsDistinct piece → Follows (' ' :: (connective.word ++ ' ' :: (piece ++ rest)))

/-- A word ends where what follows begins. -/
theorem Follows.stopsAt {tail : List Char} (h : Follows tail) : StopsAt isWordPart tail := by
  cases h with
  | nothing => exact stopsAt_nil _
  | closing h => exact stopsAt_cons _ (by decide)
  | operand connective rest h => exact stopsAt_cons _ (by decide)

/-- Blanks and then a run without blanks can be split off a text in one way only. -/
theorem split_run {gap run ys gap' run' ys' : List Char}
    (h : gap ++ (run ++ ys) = gap' ++ (run' ++ ys'))
    (hgap : ∀ c ∈ gap, Text.isBlank c = true) (hgap' : ∀ c ∈ gap', Text.isBlank c = true)
    (hne : run ≠ []) (hne' : run' ≠ [])
    (hrun : ∀ c ∈ run, Text.isBlank c = false) (hrun' : ∀ c ∈ run', Text.isBlank c = false)
    (hys : StopsAt (fun c => !Text.isBlank c) ys) (hys' : StopsAt (fun c => !Text.isBlank c) ys') :
    run = run' ∧ ys = ys' := by
  have hrest := (split_unique h hgap (stopsAt_append ys hne hrun) hgap'
    (stopsAt_append ys' hne' hrun')).2
  exact split_unique hrest (by simpa using hrun) hys (by simpa using hrun') hys'

/-- Blanks stop a run of characters that are not blank. -/
theorem stopsAt_gap {gap : List Char} (hne : gap ≠ []) (hgap : ∀ c ∈ gap, Text.isBlank c = true)
    (ys : List Char) : StopsAt (fun c => !Text.isBlank c) (gap ++ ys) := by
  apply stopsAt_append ys hne
  intro c hc
  rw [hgap c hc]
  rfl

theorem isBlank_of_mem_space : ∀ c ∈ [' '], Text.isBlank c = true := by
  exact List.all_eq_true.mp (by decide)

theorem stopsAt_space (ys : List Char) : StopsAt (fun c => !Text.isBlank c) (' ' :: ys) := by
  exact stopsAt_cons ys (by decide)

/-- The bound of a range has no blanks. -/
theorem IsBound.not_blank {bound : List Char} (h : IsBound bound) :
    ∀ c ∈ bound, Text.isBlank c = false := by
  intro c hc
  exact ((isBoundPart_iff c).mp (h.parts c hc)).1

/-- The second run without blanks in a range is its keyword. -/
theorem IsRange.isKeyword {low high text : List Char} (h : IsRange low high text)
    {rest gap run gap' run' ys : List Char}
    (hsplit : text ++ rest = gap ++ (run ++ (gap' ++ (run' ++ ys))))
    (hgap : ∀ c ∈ gap, Text.isBlank c = true) (hgap' : ∀ c ∈ gap', Text.isBlank c = true)
    (hne : run ≠ []) (hneGap : gap' ≠ []) (hne' : run' ≠ [])
    (hrun : ∀ c ∈ run, Text.isBlank c = false) (hrun' : ∀ c ∈ run', Text.isBlank c = false)
    (hys : StopsAt (fun c => !Text.isBlank c) ys) : Symbol.isKeyword "to" run' = true := by
  rcases h.split with ⟨gap₁, gap₂, keyword, gap₃, gap₄, rfl, hgaps, hne₂, hne₃, hkeyword⟩
  simp only [List.forall_mem_cons] at hgaps
  rcases hgaps with ⟨hgap₁, hgap₂, hgap₃, hgap₄, -⟩
  simp only [List.append_assoc] at hsplit
  have hbound := isBound_keyword hkeyword
  have hafter := (split_run hsplit hgap₁ hgap h.isBound_low.ne_nil hne h.isBound_low.not_blank
    hrun (stopsAt_gap hne₂ hgap₂ _) (stopsAt_gap hneGap hgap' _)).2
  have hsecond := (split_run hafter hgap₂ hgap' hbound.ne_nil hne' hbound.not_blank hrun'
    (stopsAt_gap hne₃ hgap₃ _) hys).1
  rw [← hsecond]
  exact hkeyword

/-- A bracket alone is no range where an operand follows: the connective would be the lower bound,
and the operand would begin with the keyword. -/
theorem range?_eq_none_of_operand (connective : Connective) {piece : List Char}
    (hpiece : IsDistinct piece) (rest : List Char) :
    range? (' ' :: (connective.word ++ ' ' :: (piece ++ rest))) = none := by
  rw [Option.eq_none_iff_forall_ne_some]
  rintro ⟨low, high, width⟩ hrange
  rcases isRange_of_range? hrange with ⟨text, excess, htext, hsplit, -⟩
  let run := piece ++ rest.takeWhile fun c => !Text.isBlank c
  have hruns : text ++ excess = [' '] ++ (connective.word ++ ([' '] ++
      (run ++ rest.dropWhile fun c => !Text.isBlank c))) := by
    rw [← hsplit, List.append_assoc piece, List.takeWhile_append_dropWhile]
    simp
  have hrun : ∀ c ∈ run, Text.isBlank c = false := by
    intro c hc
    rcases List.mem_append.mp hc with hc | hc
    · exact hpiece.not_blank c hc
    · simpa using List.mem_takeWhile_imp hc
  rcases hpiece.letter with ⟨d, hd, hnot⟩
  have hmem : d ∈ run := List.mem_append_left _ hd
  have hkeyword := htext.isKeyword hruns isBlank_of_mem_space isBlank_of_mem_space
    connective.word_ne_nil (by simp) (List.ne_nil_of_mem hmem) connective.not_blank_word hrun
    (stopsAt_dropWhile _ rest)
  have hletter := toLower_of_mem_keyword hkeyword hmem
  tauto

/-- A bracket with a word is no range where an operand follows: the word would be the lower bound,
and the connective the keyword. -/
theorem range?_append_eq_none_of_operand {word : List Char} (hne : word ≠ [])
    (hword : ∀ c ∈ word, Text.isBlank c = false) (connective : Connective)
    (rest : List Char) :
    range? (word ++ ' ' :: (connective.word ++ ' ' :: rest)) = none := by
  rw [Option.eq_none_iff_forall_ne_some]
  rintro ⟨low, high, width⟩ hrange
  rcases isRange_of_range? hrange with ⟨text, excess, htext, hsplit, -⟩
  have hruns : text ++ excess = [] ++ (word ++ ([' '] ++ (connective.word ++ ' ' :: rest))) := by
    rw [← hsplit]
    simp
  have hkeyword := htext.isKeyword hruns (by simp) isBlank_of_mem_space hne (by simp)
    connective.word_ne_nil hword connective.not_blank_word (stopsAt_space _)
  revert hkeyword
  cases connective <;> decide

/-- No word together with what follows it in a canonical text is a range. -/
theorem range?_eq_none_of_follows {word tail : List Char}
    (hword : ∀ c ∈ word, Text.isBlank c = false) (h : Follows tail) :
    range? (word ++ tail) = none := by
  induction h generalizing word with
  | nothing =>
    rw [Option.eq_none_iff_forall_ne_some]
    rintro ⟨low, high, width⟩ hrange
    rcases isRange_of_range? hrange with ⟨text, rest, htext, hsplit, -⟩
    rcases htext.exists_blank with ⟨c, hc, hblank⟩
    have hmem : c ∈ word := by
      rw [← List.append_nil word, hsplit]
      exact List.mem_append_left _ hc
    rw [hword c hmem] at hblank
    contradiction
  | @closing tail h ih =>
    rw [List.append_cons]
    apply ih
    intro c hc
    rcases List.mem_append.mp hc with hc | hc
    · exact hword c hc
    · rw [List.mem_singleton.mp hc]
      decide
  | @operand connective piece rest hpiece =>
    by_cases hempty : word = []
    · rw [hempty]
      exact range?_eq_none_of_operand connective hpiece rest
    · exact range?_append_eq_none_of_operand hempty hword connective _

/-! ## Scanning canonical texts -/

/-- A word before a blank is scanned as one token. -/
theorem scan_keyword {word : List Char} (h : IsWord word) (hstart : word.head? ≠ some '[')
    (tail : List Char) : scan (word ++ ' ' :: tail) = ofWord word :: scan tail := by
  have hstop : StopsAt isWordPart (' ' :: tail) := stopsAt_cons _ (by decide)
  have hname : fieldName? (word ++ ' ' :: tail) = none := by
    rw [fieldName?_append word (stopsAt_cons _ (by decide))]
    exact h.not_field
  rw [scan_word h hname hstop, scan_cons_of_blank (by decide)]
  rintro rest rfl
  simp at hstart

theorem isWord_keywords : IsWord ['A', 'N', 'D'] ∧ IsWord ['O', 'R'] ∧ IsWord ['N', 'O', 'T'] := by
  refine ⟨⟨⟨'A', rfl, by decide⟩, ?_, by decide⟩, ⟨⟨'O', rfl, by decide⟩, ?_, by decide⟩,
    ⟨⟨'N', rfl, by decide⟩, ?_, by decide⟩⟩
  · exact List.all_eq_true.mp (by decide)
  · exact List.all_eq_true.mp (by decide)
  · exact List.all_eq_true.mp (by decide)

/-- A connective between blanks is scanned as its symbol. -/
theorem scan_connective (connective : Connective) (tail : List Char) :
    scan (' ' :: (connective.word ++ ' ' :: tail)) = connective.symbol :: scan tail := by
  rw [scan_cons_of_blank (by decide)]
  cases connective with
  | and => exact scan_keyword isWord_keywords.1 (by decide) tail
  | or => exact scan_keyword isWord_keywords.2.1 (by decide) tail

theorem scan_not (tail : List Char) :
    scan ('N' :: 'O' :: 'T' :: ' ' :: tail) = not :: scan tail := by
  exact scan_keyword isWord_keywords.2.2 (by decide) tail

/-- A word has no blanks. -/
theorem IsWord.not_blank {word : List Char} (h : IsWord word) :
    ∀ c ∈ word, Text.isBlank c = false := by
  intro c hc
  exact ((isWordPart_iff c).mp (h.parts c hc)).1

/-- A word is scanned as itself in front of anything that follows an operand. -/
theorem IsWord.scan {word tail : List Char} (h : IsWord word) (htail : Follows tail) :
    Symbol.scan (word ++ tail) = ofWord word :: Symbol.scan tail := by
  have hname : fieldName? (word ++ tail) = none := by
    rw [fieldName?_append]
    · exact h.not_field
    · intro c hc
      exact not_namePart_of_not_wordPart (htail.stopsAt c hc)
  apply scan_word h hname htail.stopsAt
  rintro rest rfl
  apply range?_eq_none_of_follows _ htail
  intro c hc
  exact h.not_blank c (List.mem_cons_of_mem _ hc)

/-- The text of a range with single spaces. -/
theorem isRange_of_isBound {low high : List Char} (hlow : IsBound low) (hhigh : IsBound high) :
    IsRange low high (low ++ ' ' :: 'T' :: 'O' :: ' ' :: (high ++ [']'])) where
  isBound_low := hlow
  isBound_high := hhigh
  split := by
    refine ⟨[], [' '], ['T', 'O'], [' '], [], by simp, ?_, by simp, by simp, by decide⟩
    simp only [List.forall_mem_cons]
    exact ⟨by simp, ⟨by decide, by simp⟩, ⟨by decide, by simp⟩, by simp, by simp⟩

/-- A leaf is scanned as its symbol. -/
theorem scan_leaf {symbol : Symbol} {value : Query} {tail : List Char} (h : symbol.Spelled)
    (hleaf : Reader.leaf? symbol = some value) (htail : Follows tail) :
    scan (value.canonical.toList ++ tail) = symbol :: scan tail := by
  cases symbol with
  | term text =>
    cases hleaf
    rw [Query.canonical, h.1.scan htail, h.2]
  | wildcard pattern =>
    cases hleaf
    rw [Query.canonical, h.1.scan htail, h.2]
  | phrase text =>
    cases hleaf
    have hscan := scan_phrase text.toList tail
    rw [String.ofList_toList] at hscan
    simpa [Query.canonical] using hscan
  | range low high =>
    cases hleaf
    have hscan := scan_range (isRange_of_isBound h.1 h.2) tail
    rw [String.ofList_toList, String.ofList_toList] at hscan
    simpa [Query.canonical] using hscan
  | _ => simp [Reader.leaf?] at hleaf

/-- A run without blanks and a closing sign behind it that is no letter of the keyword. -/
theorem isDistinct_append {piece : List Char} (hpiece : ∀ c ∈ piece, Text.isBlank c = false)
    {sign : Char} (hsign : sign ∈ [')', ':', '(', '[', '"', 'N']) :
    IsDistinct (piece ++ [sign]) := by
  have htable : [')', ':', '(', '[', '"', 'N'].all (fun c =>
      Text.isBlank c = false ∧ c.toLower ≠ 't' ∧ c.toLower ≠ 'o') = true := by
    decide
  rcases of_decide_eq_true (List.all_eq_true.mp htable sign hsign) with ⟨hblank, hletter⟩
  constructor
  · intro c hc
    rcases List.mem_append.mp hc with hc | hc
    · exact hpiece c hc
    · rw [List.mem_singleton.mp hc]
      exact hblank
  · exact ⟨sign, by simp, hletter⟩

/-- With a closing parenthesis behind it, a canonical text does not begin with the keyword of a
range. -/
theorem exists_isDistinct {tree : Query} (h : tree.Legible) (tail : List Char) :
    ∃ piece rest, tree.canonical.toList ++ ')' :: tail = piece ++ rest ∧ IsDistinct piece := by
  cases h with
  | @leaf symbol value hspelled hleaf =>
    cases symbol with
    | term text =>
      cases hleaf
      exact ⟨text.toList ++ [')'], tail, by simp [Query.canonical],
        isDistinct_append hspelled.1.not_blank (by simp)⟩
    | wildcard pattern =>
      cases hleaf
      exact ⟨pattern.toList ++ [')'], tail, by simp [Query.canonical],
        isDistinct_append hspelled.1.not_blank (by simp)⟩
    | phrase text =>
      cases hleaf
      exact ⟨[] ++ ['"'], Query.protect text.toList ++ '"' :: ')' :: tail,
        by simp [Query.canonical], isDistinct_append (by simp) (by simp)⟩
    | range low high =>
      cases hleaf
      exact ⟨[] ++ ['['],
        low.toList ++ ' ' :: 'T' :: 'O' :: ' ' :: (high.toList ++ ']' :: ')' :: tail),
        by simp [Query.canonical], isDistinct_append (by simp) (by simp)⟩
    | _ => simp [Reader.leaf?] at hleaf
  | @field name symbol value hname hspelled hleaf =>
    refine ⟨name.toList ++ [':'], value.canonical.toList ++ ')' :: tail,
      by simp [Query.canonical], isDistinct_append ?_ (by simp)⟩
    intro c hc
    exact isBlank_of_isNamePart (hname.parts c hc)
  | @not operand hoperand =>
    exact ⟨[] ++ ['N'], 'O' :: 'T' :: ' ' :: (operand.canonical.toList ++ ')' :: tail),
      by simp [Query.canonical], isDistinct_append (by simp) (by simp)⟩
  | @join connective left right hleft hright =>
    obtain ⟨rest, hrest⟩ : ∃ rest, (connective.join left right).canonical.toList = '(' :: rest :=
      ⟨_, Query.canonical_join connective left right⟩
    exact ⟨[] ++ ['('], rest ++ ')' :: tail, by simp [hrest],
      isDistinct_append (by simp) (by simp)⟩

/-- The canonical text of a legible tree is scanned into the symbols of the tree. -/
theorem scan_canonical {tree : Query} (h : tree.Legible) {tail : List Char}
    (htail : Follows tail) :
    scan (tree.canonical.toList ++ tail) = tree.symbols ++ scan tail := by
  induction h generalizing tail with
  | leaf hspelled hleaf =>
    rw [Query.symbols_of_leaf hleaf]
    exact scan_leaf hspelled hleaf htail
  | @field name symbol value hname hspelled hleaf =>
    have hscan := scan_field hname (value.canonical.toList ++ tail)
    rw [String.ofList_toList, scan_leaf hspelled hleaf htail] at hscan
    rw [Query.symbols, Query.symbols_of_leaf hleaf]
    simpa [Query.canonical] using hscan
  | @not operand hoperand ih =>
    have hscan := scan_not (operand.canonical.toList ++ tail)
    rw [ih htail] at hscan
    rw [Query.symbols]
    simpa [Query.canonical] using hscan
  | @join connective left right hleft hright ihLeft ihRight =>
    rcases exists_isDistinct hright tail with ⟨piece, rest, hpiece, hdistinct⟩
    have hfollows : Follows (' ' :: (connective.word ++ ' ' ::
        (right.canonical.toList ++ ')' :: tail))) := by
      rw [hpiece]
      exact Follows.operand connective rest hdistinct
    calc scan ((connective.join left right).canonical.toList ++ tail)
        = scan ('(' :: (left.canonical.toList ++ ' ' :: (connective.word ++ ' ' ::
            (right.canonical.toList ++ ')' :: tail)))) := by
          rw [Query.canonical_join]
          simp
      _ = .opening :: (left.symbols ++ connective.symbol ::
            (right.symbols ++ .closing :: scan tail)) := by
          rw [scan_opening, ihLeft hfollows, scan_connective, ihRight (.closing htail),
            scan_closing]
      _ = (connective.join left right).symbols ++ scan tail := by
          rw [Query.symbols_join]
          simp

end Symbol
end TextSearch
