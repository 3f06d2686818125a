import TextSearch.Proofs.Text.Folding
import TextSearch.Search.Wildcard

/-!
# What wildcards match

A wildcard is written as an expression, the expression is read as pieces, and the pieces are matched
row by row.  Nothing of this shows in the result: a text matches exactly if it can be cut into a part
with the letters of the literal text and one part for every character of the pattern.

Main results:

- Theorem `ofExpression?_expression`: what is read off an expression are the pieces of the texts
  that it was written for.
- Theorem `Answers.row`: one row follows from the row behind it.
- Theorem `accepts_iff_matches`: the first row answers for the whole text.
- Theorem `accepts_iff_exists_parts`: which texts a wildcard matches.
-/

namespace TextSearch

namespace WildcardPiece

/-- What a character of a pattern stands for. -/
def ofChar (c : Char) : WildcardPiece :=
  if c = '*' then many else if c = '?' then one else letter c

/-- The piece takes the part of a text. -/
def Takes : WildcardPiece → List Char → Prop
  | letter l, part => ∃ c, part = [c] ∧ Text.sameLetter l c = true
  | one, part => ∃ c, part = [c] ∧ c ≠ '\n'
  | many, part => '\n' ∉ part

/-- A piece for one character takes the characters that it accepts. -/
theorem takes_iff_of_ne_many {piece : WildcardPiece} (h : piece ≠ many) {part : List Char} :
    piece.Takes part ↔ ∃ c, part = [c] ∧ piece.accepts c = true := by
  cases piece with
  | letter l => exact Iff.rfl
  | one => simp [Takes, accepts]
  | many => contradiction

end WildcardPiece

namespace Wildcard

/-! ## Expressions -/

/-- The pieces of a text that stands for itself, followed by a pattern. -/
def pieces (literal pattern : List Char) : Wildcard :=
  literal.map .letter ++ pattern.map .ofChar

/-- The expression for one character of a pattern. -/
def spelling (c : Char) : List Char :=
  if c = '*' then ['.', '*'] else if c = '?' then ['.'] else escape [c]

@[simp]
theorem escape_nil : escape [] = [] :=
  rfl

@[simp]
theorem escape_append (xs ys : List Char) : escape (xs ++ ys) = escape xs ++ escape ys :=
  List.flatMap_append

/-- That characters wait until they are written does not matter. -/
theorem expressionFrom_eq (written waiting pattern : List Char) :
    expressionFrom written waiting pattern =
      written.reverse ++ (escape waiting.reverse ++ pattern.flatMap spelling) := by
  fun_induction expressionFrom written waiting pattern with
  | case1 written waiting => simp [write]
  | case2 written waiting cs ih =>
    rw [ih]
    simp [write, spelling]
  | case3 written waiting cs ih =>
    rw [ih]
    simp [write, spelling]
  | case4 written waiting c cs hstar hmark ih =>
    have hspelling : spelling c = escape [c] := by
      rw [spelling, if_neg hstar, if_neg hmark]
    rw [ih, List.flatMap_cons, hspelling]
    simp

/-- A character that stands for itself is read as its letter, protected or not. -/
theorem piecesFrom_escape_singleton (found : Wildcard) (c : Char) (rest : List Char) :
    piecesFrom found (escape [c] ++ rest) = piecesFrom (.letter c :: found) rest := by
  by_cases hspecial : isSpecial c = true
  · have hescape : escape [c] = ['\\', c] := by
      simp [escape, hspecial]
    rw [hescape, List.cons_append, List.cons_append, List.nil_append, piecesFrom, if_pos hspecial]
  · have hescape : escape [c] = [c] := by
      simp [escape, hspecial]
    have hplain : c ≠ '$' ∧ c ≠ '\\' ∧ c ≠ '.' := by
      refine ⟨?_, ?_, ?_⟩
      · rintro rfl
        exact hspecial (by decide)
      · rintro rfl
        exact hspecial (by decide)
      · rintro rfl
        exact hspecial (by decide)
    rw [hescape, List.cons_append, List.nil_append, piecesFrom, if_neg hspecial]
    · exact fun hend _ => hplain.1 hend
    · exact fun _ _ hslash _ => hplain.2.1 hslash
    · exact fun _ hdot _ => hplain.2.2 hdot
    · exact fun hdot => hplain.2.2 hdot

/-- A text that stands for itself is read as its letters. -/
theorem piecesFrom_escape (found : Wildcard) (literal rest : List Char) :
    piecesFrom found (escape literal ++ rest) =
      piecesFrom ((literal.map .letter).reverse ++ found) rest := by
  induction literal generalizing found with
  | nil => rfl
  | cons c literal ih =>
    rw [← List.singleton_append, escape_append, List.append_assoc, piecesFrom_escape_singleton, ih]
    simp

/-- What is written for a pattern does not begin with a star: it would be read together with a dot
before it. -/
theorem head?_flatMap_spelling (pattern : List Char) {rest : List Char}
    (hrest : rest.head? ≠ some '*') : (pattern.flatMap spelling ++ rest).head? ≠ some '*' := by
  cases pattern with
  | nil => exact hrest
  | cons c pattern =>
    rw [List.flatMap_cons, spelling]
    split
    · simp
    · rename_i hstar
      split
      · simp
      · by_cases hspecial : isSpecial c = true
        · simp [escape, hspecial]
        · simpa [escape, hspecial] using hstar

/-- A pattern is read as what its characters stand for. -/
theorem piecesFrom_spelling (found : Wildcard) (pattern : List Char) {rest : List Char}
    (hrest : rest.head? ≠ some '*') :
    piecesFrom found (pattern.flatMap spelling ++ rest) =
      piecesFrom ((pattern.map .ofChar).reverse ++ found) rest := by
  induction pattern generalizing found with
  | nil => rfl
  | cons c pattern ih =>
    have hnext := head?_flatMap_spelling pattern hrest
    have hread : piecesFrom found (spelling c ++ (pattern.flatMap spelling ++ rest)) =
        piecesFrom (.ofChar c :: found) (pattern.flatMap spelling ++ rest) := by
      rw [spelling, WildcardPiece.ofChar]
      split
      · rfl
      · split
        · rw [List.singleton_append, piecesFrom]
          rintro cs hstar
          exact hnext (by rw [hstar]; rfl)
        · exact piecesFrom_escape_singleton found c _
    rw [List.flatMap_cons, List.append_assoc, hread, ih]
    simp

/-- What is read off an expression are the pieces of the texts that it was written for. -/
theorem ofExpression?_expression (literal pattern : String) :
    ofExpression? (expression literal pattern) =
      some (pieces literal.toList pattern.toList) := by
  have hspelled : (expression literal pattern).toList =
      '(' :: '?' :: 'i' :: ')' :: '^' ::
        (escape literal.toList ++ (pattern.toList.flatMap spelling ++ ['$'])) := by
    simp [expression, expressionFrom_eq]
  rw [ofExpression?, hspelled]
  change piecesFrom [] (escape literal.toList ++ (pattern.toList.flatMap spelling ++ ['$'])) = _
  rw [piecesFrom_escape, piecesFrom_spelling _ _ (by simp), piecesFrom]
  simp [pieces]

/-- A wildcard has the pieces of its texts, and it is refused only for its size. -/
theorem compile?_eq_some_iff {literal pattern : String} {wildcard : Wildcard} :
    compile? literal pattern = some wildcard ↔
      wildcard = pieces literal.toList pattern.toList ∧
        AutomatonSize.affordable wildcard.size = true := by
  rw [compile?, ofExpression?_expression, Option.filter_eq_some_iff, Option.some.injEq,
    eq_comm (a := pieces _ _)]

/-! ## Matching, piece by piece -/

/-- The text can be cut into parts that the pieces take. -/
def Matches (wildcard : Wildcard) (text : List Char) : Prop :=
  ∃ parts : List (List Char), parts.flatten = text ∧ List.Forall₂ WildcardPiece.Takes wildcard parts

variable {wildcard : Wildcard} {piece : WildcardPiece} {text : List Char}

/-- Nothing but the empty text matches the empty wildcard. -/
theorem matches_nil_iff : Matches [] text ↔ text = [] := by
  constructor
  · rintro ⟨parts, rfl, hparts⟩
    rw [List.forall₂_nil_left_iff.mp hparts]
    rfl
  · rintro rfl
    exact ⟨[], rfl, .nil⟩

/-- A wildcard matches what splits into a part for its first piece and a rest for the others. -/
theorem matches_cons_iff : Matches (piece :: wildcard) text ↔
    ∃ part rest, text = part ++ rest ∧ piece.Takes part ∧ wildcard.Matches rest := by
  constructor
  · rintro ⟨parts, rfl, hparts⟩
    obtain ⟨part, rest, hpart, hrest, rfl⟩ := List.forall₂_cons_left_iff.mp hparts
    exact ⟨part, rest.flatten, rfl, hpart, rest, rfl, hrest⟩
  · rintro ⟨part, _, rfl, hpart, rest, rfl, hrest⟩
    exact ⟨part :: rest, rfl, .cons hpart hrest⟩

/-- A piece for one character takes the first character. -/
theorem matches_step_cons_iff (h : piece ≠ .many) {c : Char} :
    Matches (piece :: wildcard) (c :: text) ↔
      piece.accepts c = true ∧ wildcard.Matches text := by
  rw [matches_cons_iff]
  simp only [WildcardPiece.takes_iff_of_ne_many h]
  constructor
  · rintro ⟨_, rest, hsplit, ⟨d, rfl, haccepts⟩, hrest⟩
    rw [List.singleton_append, List.cons.injEq] at hsplit
    rw [hsplit.1, hsplit.2]
    exact ⟨haccepts, hrest⟩
  · rintro ⟨haccepts, hrest⟩
    exact ⟨[c], text, rfl, ⟨c, rfl, haccepts⟩, hrest⟩

/-- A piece that takes a character does not match the empty text. -/
theorem not_matches_step_nil (h : piece ≠ .many) : ¬ Matches (piece :: wildcard) [] := by
  rw [matches_cons_iff]
  simp only [WildcardPiece.takes_iff_of_ne_many h]
  rintro ⟨_, rest, hsplit, ⟨d, rfl, -⟩, -⟩
  contradiction

/-- A piece for any run takes nothing, or the first character and then a run. -/
theorem matches_run_cons_iff {c : Char} :
    Matches (.many :: wildcard) (c :: text) ↔
      wildcard.Matches (c :: text) ∨
        WildcardPiece.many.accepts c = true ∧ Matches (.many :: wildcard) text := by
  simp only [matches_cons_iff, WildcardPiece.Takes, WildcardPiece.accepts, bne_iff_ne]
  constructor
  · rintro ⟨part, rest, hsplit, hpart, hrest⟩
    cases part with
    | nil =>
      left
      rw [hsplit]
      exact hrest
    | cons d part =>
      right
      rw [List.cons_append, List.cons.injEq] at hsplit
      rw [List.mem_cons, not_or] at hpart
      rw [hsplit.1]
      exact ⟨Ne.symm hpart.1, part, rest, hsplit.2, hpart.2, hrest⟩
  · rintro (hrest | ⟨haccepts, part, rest, rfl, hpart, hrest⟩)
    · exact ⟨[], c :: text, rfl, List.not_mem_nil, hrest⟩
    · refine ⟨c :: part, rest, rfl, ?_, hrest⟩
      rw [List.mem_cons, not_or]
      exact ⟨Ne.symm haccepts, hpart⟩

/-- On the empty text a star may be left out. -/
theorem matches_run_nil_iff : Matches (.many :: wildcard) [] ↔ wildcard.Matches [] := by
  rw [matches_cons_iff]
  constructor
  · rintro ⟨part, rest, hsplit, -, hrest⟩
    rw [(List.append_eq_nil_iff.mp hsplit.symm).2] at hrest
    exact hrest
  · intro hrest
    exact ⟨[], [], rfl, List.not_mem_nil, hrest⟩

/-! ## Rows -/

/-- The row says of every end of the text whether the wildcard matches it. -/
def Answers (wildcard : Wildcard) (text : List Char) (row : List Bool) : Prop :=
  List.Forall₂ (fun here ending => here = true ↔ wildcard.Matches ending) row text.tails

namespace Answers

variable {behind : List Bool}

/-- Behind the last piece only the empty end is matched. -/
theorem last (text : List Char) : Answers [] text (lastRow text) := by
  induction text with
  | nil => exact .cons (by simp [matches_nil_iff]) .nil
  | cons c text ih => exact .cons (by simp [matches_nil_iff]) ih

/-- A row has at least the answer for the empty end. -/
theorem exists_cons (h : wildcard.Answers text behind) :
    ∃ here further, behind = here :: further ∧ (here = true ↔ wildcard.Matches text) := by
  cases text with
  | nil =>
    obtain ⟨here, further, hhere, -, rfl⟩ := List.forall₂_cons_right_iff.mp h
    exact ⟨here, further, rfl, hhere⟩
  | cons c text =>
    obtain ⟨here, further, hhere, -, rfl⟩ := List.forall₂_cons_right_iff.mp h
    exact ⟨here, further, rfl, hhere⟩

/-- The row of a piece that takes one character: it answers by the row behind it, one character
later. -/
theorem step (h : wildcard.Answers text behind) (hpiece : piece ≠ .many) :
    Answers (piece :: wildcard) text (stepRow piece text behind) := by
  induction text generalizing behind with
  | nil => exact .cons (by simp [not_matches_step_nil hpiece]) .nil
  | cons c text ih =>
    obtain ⟨here, further, -, hfurther, rfl⟩ := List.forall₂_cons_right_iff.mp h
    have hrow := ih hfurther
    obtain ⟨next, later, rfl, hnext⟩ := exists_cons hfurther
    refine .cons ?_ hrow
    rw [matches_step_cons_iff hpiece, Bool.and_eq_true, hnext]

/-- The row of a piece that takes any run: it answers by the row behind it, and by its own answer
one character later. -/
theorem run (h : wildcard.Answers text behind) :
    Answers (.many :: wildcard) text (runRow text behind) := by
  induction text generalizing behind with
  | nil =>
    obtain ⟨here, further, hhere, hfurther, rfl⟩ := List.forall₂_cons_right_iff.mp h
    rw [List.forall₂_nil_right_iff.mp hfurther]
    exact .cons (by rw [matches_run_nil_iff, ← hhere]; rfl) .nil
  | cons c text ih =>
    obtain ⟨here, further, hhere, hfurther, rfl⟩ := List.forall₂_cons_right_iff.mp h
    have hrow := ih hfurther
    obtain ⟨next, later, rfl, -⟩ := exists_cons hfurther
    obtain ⟨done, others, hdone, hmatches⟩ := exists_cons hrow
    have hrows : runRow (c :: text) (here :: next :: later) =
        (here || (WildcardPiece.many.accepts c && (runRow text (next :: later)).headD false)) ::
          runRow text (next :: later) :=
      rfl
    rw [hrows]
    refine .cons ?_ hrow
    rw [hdone, List.headD_cons, matches_run_cons_iff, Bool.or_eq_true, Bool.and_eq_true, hhere,
      hmatches]

/-- One row follows from the row behind it. -/
theorem row (h : wildcard.Answers text behind) (piece : WildcardPiece) :
    Answers (piece :: wildcard) text (Wildcard.row text piece behind) := by
  cases piece with
  | letter l => exact h.step (by simp)
  | one => exact h.step (by simp)
  | many => exact h.run

end Answers

/-- The rows of the pieces, one from the other, answer for all of them. -/
theorem answers_foldr_row (wildcard : Wildcard) (text : List Char) :
    Answers wildcard text (wildcard.foldr (row text) (lastRow text)) := by
  induction wildcard with
  | nil => exact .last text
  | cons piece wildcard ih => exact ih.row piece

/-- The first row answers for the whole text. -/
theorem accepts_iff_matches (wildcard : Wildcard) (text : List Char) :
    wildcard.accepts text = true ↔ wildcard.Matches text := by
  obtain ⟨here, further, hrow, hhere⟩ := (answers_foldr_row wildcard text).exists_cons
  rw [accepts, hrow, List.headD_cons, hhere]

/-! ## Texts that are matched -/

/-- Two wildcards in a row match what splits into a front for one and a back for the other. -/
theorem matches_append_iff {further : Wildcard} :
    Matches (wildcard ++ further) text ↔
      ∃ front back, text = front ++ back ∧ wildcard.Matches front ∧ further.Matches back := by
  induction wildcard generalizing text with
  | nil => simp [matches_nil_iff]
  | cons piece wildcard ih =>
    simp only [List.cons_append, matches_cons_iff, ih]
    constructor
    · rintro ⟨part, _, rfl, hpart, front, back, rfl, hfront, hback⟩
      exact ⟨part ++ front, back, (List.append_assoc _ _ _).symm, ⟨part, front, rfl, hpart, hfront⟩,
        hback⟩
    · rintro ⟨_, back, rfl, ⟨part, front, rfl, hpart, hfront⟩, hback⟩
      exact ⟨part, front ++ back, List.append_assoc _ _ _, hpart, front, back, rfl, hfront, hback⟩

/-- Letters match the texts with these letters. -/
theorem matches_letters_iff {literal : List Char} :
    Matches (literal.map .letter) text ↔ Text.SameLetters literal text := by
  induction literal generalizing text with
  | nil => rw [List.map_nil, matches_nil_iff, Text.SameLetters, List.forall₂_nil_left_iff]
  | cons l literal ih =>
    cases text with
    | nil =>
      rw [List.map_cons, iff_false_left (not_matches_step_nil (by simp)), Text.SameLetters,
        List.forall₂_nil_right_iff]
      exact List.cons_ne_nil l literal
    | cons c text =>
      rw [List.map_cons, matches_step_cons_iff (by simp), ih, Text.SameLetters, Text.SameLetters,
        List.forall₂_cons]
      rfl

/-- A wildcard that is not refused matches a text exactly if the text can be cut into a part with the
letters of the literal text and, for the characters of the pattern in their order, parts that they
take: a star any run without line ends, a question mark one character that is no line end, and every
other character one character of its letter. -/
theorem accepts_iff_exists_parts {literal pattern : String} {wildcard : Wildcard}
    (h : compile? literal pattern = some wildcard) (text : String) :
    wildcard.accepts text.toList = true ↔
      ∃ stem parts, text.toList = stem ++ parts.flatten ∧ Text.SameLetters literal.toList stem ∧
        List.Forall₂ (fun c part => (WildcardPiece.ofChar c).Takes part) pattern.toList parts := by
  rw [accepts_iff_matches, (compile?_eq_some_iff.mp h).1, pieces, matches_append_iff]
  simp only [matches_letters_iff]
  simp only [Matches, List.forall₂_map_left_iff]
  constructor
  · rintro ⟨stem, _, hsplit, hstem, parts, rfl, hparts⟩
    exact ⟨stem, parts, hsplit, hstem, hparts⟩
  · rintro ⟨stem, parts, hsplit, hstem, hparts⟩
    exact ⟨stem, parts.flatten, hsplit, hstem, parts, rfl, hparts⟩

/-- Brackets stand for themselves, and the sign for kelvin is a letter K; a question mark does not
take two characters. -/
theorem accepts_iff_exists_parts_brackets :
    ∃ wildcard, compile? "tag:" "k*(?)" = some wildcard ∧
      wildcard.accepts "TAG:\u212Aelvin (ß)".toList = true ∧
      wildcard.accepts "tag:k(ab)".toList = false := by
  have hsize : AutomatonSize.affordable (pieces "tag:".toList "k*(?)".toList).size = true := by
    unfold Wildcard.size WildcardPiece.size AutomatonSize.ofLetter AutomatonSize.formSequences
    rw [Text.caseForms_eq]
    decide +kernel
  have hcompile := compile?_eq_some_iff.mpr ⟨rfl, hsize⟩
  refine ⟨_, hcompile, (accepts_iff_exists_parts hcompile _).mpr ?_, by decide +kernel⟩
  have hstem : Text.SameLetters "tag:".toList "TAG:".toList := by
    decide +kernel
  have hletters : (WildcardPiece.ofChar 'k').Takes ['\u212A'] ∧
      (WildcardPiece.ofChar '(').Takes ['('] ∧ (WildcardPiece.ofChar ')').Takes [')'] :=
    ⟨⟨_, rfl, by decide +kernel⟩, ⟨_, rfl, by decide +kernel⟩, ⟨_, rfl, by decide +kernel⟩⟩
  have hrun : (WildcardPiece.ofChar '*').Takes "elvin ".toList := by
    change '\n' ∉ "elvin ".toList
    decide
  have hone : (WildcardPiece.ofChar '?').Takes ['ß'] :=
    ⟨_, rfl, by decide⟩
  exact ⟨"TAG:".toList, [['\u212A'], "elvin ".toList, ['('], ['ß'], [')']], by decide +kernel, hstem,
    .cons hletters.1 (.cons hrun (.cons hletters.2.1 (.cons hone (.cons hletters.2.2 .nil))))⟩

end Wildcard
end TextSearch
