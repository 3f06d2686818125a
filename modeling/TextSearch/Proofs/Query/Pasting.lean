import TextSearch.Proofs.Query.Canonical
import TextSearch.Proofs.Query.Trimming

/-!
# Texts between parentheses

A text is pasted between parentheses, and perhaps a word and another text follow.  The symbols of
the text do not change, unless a phrase of it is left open and takes the rest of the query along.
Words and field names end at a parenthesis.  A range could reach into what follows, because its
bounds may hold parentheses; but a range is made of at most four blocks without blanks, the second
of which is its keyword, and no closing parenthesis can stand where a range that reached so far
would need it.

Main results:

- Theorem `IsRange.exists_blocks`: a range is a lower bound, a keyword and at most two further
  blocks.
- Theorem `range?_append_of_closesGroup`: what follows a group does not make a range of its end.
- Theorem `scan_append_of_closesGroup`: the symbols of a pasted text are its own, unless its last
  token is a phrase left open.
-/

namespace TextSearch

/-! ## Blocks -/

namespace Text

/-- The maximal runs without blanks, in order. -/
def blocks (cs : List Char) : List (List Char) :=
  (cs.splitOnP isBlank).filter fun block => !block.isEmpty

/-- Blocks on both sides of a blank are found independently. -/
theorem blocks_append_cons {blank : Char} (h : isBlank blank = true) (xs ys : List Char) :
    blocks (xs ++ blank :: ys) = blocks xs ++ blocks ys := by
  unfold blocks
  rw [List.splitOnP_append_cons xs ys h, List.filter_append]

@[simp]
theorem blocks_nil : blocks [] = [] := by
  simp [blocks]

/-- A text without blanks is one block. -/
theorem blocks_of_not_blank {block : List Char} (hne : block ≠ [])
    (h : ∀ c ∈ block, isBlank c = false) : blocks block = [block] := by
  unfold blocks
  rw [List.splitOnP_eq_singleton h]
  simp [hne]

/-- Blanks in front of a text add no block. -/
theorem blocks_gap_append {gap : List Char} (h : ∀ c ∈ gap, isBlank c = true)
    (cs : List Char) : blocks (gap ++ cs) = blocks cs := by
  induction gap with
  | nil => rfl
  | cons c gap ih =>
    have hcons := blocks_append_cons (h c List.mem_cons_self) [] (gap ++ cs)
    rw [List.nil_append, blocks_nil, List.nil_append] at hcons
    rw [List.cons_append, hcons]
    exact ih fun d hd => h d (List.mem_cons_of_mem _ hd)

/-- A block that blanks follow stands before the blocks behind them. -/
theorem blocks_block_append {block gap : List Char} (hne : block ≠ [])
    (h : ∀ c ∈ block, isBlank c = false) (hgapNe : gap ≠ [])
    (hgap : ∀ c ∈ gap, isBlank c = true) (cs : List Char) :
    blocks (block ++ (gap ++ cs)) = block :: blocks cs := by
  cases gap with
  | nil => contradiction
  | cons c gap =>
    rw [List.cons_append, blocks_append_cons (hgap c List.mem_cons_self),
      blocks_of_not_blank hne h,
      blocks_gap_append fun d hd => hgap d (List.mem_cons_of_mem _ hd)]
    rfl

/-- A text is free of blanks, or free of them behind the last one. -/
theorem not_blank_or_exists_last_blank (xs : List Char) :
    (∀ c ∈ xs, isBlank c = false) ∨
      ∃ before blank after, xs = before ++ blank :: after ∧ isBlank blank = true ∧
        ∀ c ∈ after, isBlank c = false := by
  induction xs with
  | nil =>
    left
    simp
  | cons c xs ih =>
    rcases ih with hnone | ⟨before, blank, after, rfl, hblank, hafter⟩
    · by_cases hc : isBlank c = true
      · right
        exact ⟨[], c, xs, rfl, hc, hnone⟩
      · left
        rw [Bool.not_eq_true] at hc
        simp only [List.forall_mem_cons]
        exact ⟨hc, hnone⟩
    · right
      exact ⟨c :: before, blank, after, rfl, hblank, hafter⟩

/-- A character that is not blank is in the last block of the text that it ends. -/
theorem exists_blocks_append_singleton (xs : List Char) {c : Char} (h : isBlank c = false) :
    ∃ before last, blocks (xs ++ [c]) = before ++ [last] ∧ c ∈ last := by
  have hblock : ∀ ys : List Char, (∀ d ∈ ys, isBlank d = false) →
      blocks (ys ++ [c]) = [ys ++ [c]] := by
    intro ys hys
    apply blocks_of_not_blank (by simp)
    intro d hd
    rcases List.mem_append.mp hd with hd | hd
    · exact hys d hd
    · rw [List.mem_singleton.mp hd]
      exact h
  rcases not_blank_or_exists_last_blank xs with hnone | ⟨before, blank, after, rfl, hblank, hafter⟩
  · exact ⟨[], xs ++ [c], hblock xs hnone, by simp⟩
  · refine ⟨blocks before, after ++ [c], ?_, by simp⟩
    rw [List.append_assoc, List.cons_append, blocks_append_cons hblank, hblock after hafter]

end Text

namespace Symbol

/-! ## Ranges -/

/-- A range is a lower bound, a keyword and at most two further blocks. -/
theorem IsRange.exists_blocks {low high text : List Char} (h : IsRange low high text) :
    ∃ keyword others, Text.blocks text = low :: keyword :: others ∧
      Symbol.isKeyword "to" keyword = true ∧ others.length ≤ 2 := by
  rcases h.split with ⟨gap₁, gap₂, keyword, gap₃, gap₄, rfl, hgaps, hne₂, hne₃, hkeyword⟩
  simp only [List.forall_mem_cons] at hgaps
  rcases hgaps with ⟨hgap₁, hgap₂, hgap₃, hgap₄, -⟩
  have hbound := isBound_keyword hkeyword
  refine ⟨keyword, Text.blocks (high ++ (gap₄ ++ [']'])), ?_, hkeyword, ?_⟩
  · rw [Text.blocks_gap_append hgap₁,
      Text.blocks_block_append h.isBound_low.ne_nil h.isBound_low.not_blank hne₂ hgap₂,
      Text.blocks_block_append hbound.ne_nil hbound.not_blank hne₃ hgap₃]
  · by_cases hnil : gap₄ = []
    · have hnotBlank : ∀ c ∈ high ++ [']'], Text.isBlank c = false := by
        intro c hc
        rcases List.mem_append.mp hc with hc | hc
        · exact h.isBound_high.not_blank c hc
        · rw [List.mem_singleton.mp hc]
          decide
      rw [hnil, List.nil_append, Text.blocks_of_not_blank (by simp) hnotBlank]
      simp
    · have hbracket : Text.blocks [']'] = [[']']] :=
        Text.blocks_of_not_blank (by simp) (by simp; decide)
      rw [Text.blocks_block_append h.isBound_high.ne_nil h.isBound_high.not_blank hnil hgap₄,
        hbracket]
      simp

/-- A range that reaches over a closing parenthesis has its keyword directly behind it. -/
theorem IsRange.isKeyword_of_parenthesis {low high cs word front : List Char} (hne : word ≠ [])
    (hword : ∀ c ∈ word, Text.isBlank c = false)
    (h : IsRange low high (cs ++ ')' :: ' ' :: (word ++ ' ' :: (front ++ [']'])))) :
    Symbol.isKeyword "to" word = true := by
  obtain ⟨keyword, others, hblocks, hkeyword, hlength⟩ := h.exists_blocks
  obtain ⟨before, last, hbefore, hparenthesis⟩ :=
    Text.exists_blocks_append_singleton cs (by decide : Text.isBlank ')' = false)
  obtain ⟨inner, final, hbehind, -⟩ :=
    Text.exists_blocks_append_singleton front (by decide : Text.isBlank ']' = false)
  have hblank : Text.isBlank ' ' = true := by decide
  have hwhole : low :: keyword :: others = before ++ last :: word :: (inner ++ [final]) := by
    rw [← hblocks, List.append_cons, Text.blocks_append_cons hblank, hbefore,
      Text.blocks_append_cons hblank, Text.blocks_of_not_blank hne hword, hbehind]
    simp
  -- Before the block that ends with the parenthesis there may stand blocks of the text; where the
  -- second block of the whole is, depends on their number.
  match before with
  | [] =>
    have hsame : keyword = word := by
      simp only [List.nil_append, List.cons.injEq] at hwhole
      exact hwhole.2.1
    rw [← hsame]
    exact hkeyword
  | [_] =>
    have hsame : keyword = last := by
      simp only [List.cons_append, List.nil_append, List.cons.injEq] at hwhole
      exact hwhole.2.1
    rw [← hsame] at hparenthesis
    -- The parenthesis is no letter of the keyword.
    have hletter := toLower_of_mem_keyword hkeyword hparenthesis
    exact absurd hletter (by decide)
  | _ :: _ :: before =>
    have hcount := congrArg List.length hwhole
    simp only [List.length_cons, List.length_append, List.length_nil] at hcount
    omega

/-- What follows the inside of a group: its closing parenthesis, and then nothing, or a word that
is neither the keyword of a range nor holds a bracket. -/
inductive ClosesGroup : List Char → Prop
  | last : ClosesGroup [')']
  | before {word : List Char} (rest : List Char) :
    word ≠ [] → (∀ c ∈ word, Text.isBlank c = false) → isKeyword "to" word = false →
    ']' ∉ word → ClosesGroup (')' :: ' ' :: (word ++ ' ' :: rest))

theorem ClosesGroup.exists_cons {tail : List Char} (h : ClosesGroup tail) :
    ∃ rest, tail = ')' :: rest := by
  cases h with
  | last => exact ⟨[], rfl⟩
  | before rest => exact ⟨_, rfl⟩

theorem ClosesGroup.stopsAt {tail : List Char} (h : ClosesGroup tail) :
    StopsAt isWordPart tail := by
  obtain ⟨rest, rfl⟩ := h.exists_cons
  exact stopsAt_cons rest (by decide)

/-- A text that ends with a bracket and begins as the text behind a group does goes on behind the
word there. -/
theorem exists_behind_word {word xs rest rest' : List Char} (hbracket : ']' ∉ word)
    (h : xs ++ [']'] ++ rest = ')' :: ' ' :: (word ++ ' ' :: rest')) :
    ∃ front, xs ++ [']'] = ')' :: ' ' :: (word ++ ' ' :: (front ++ [']'])) := by
  have hsplit : xs ++ ']' :: rest = (')' :: ' ' :: (word ++ [' '])) ++ rest' := by
    simpa using h
  rcases List.append_eq_append_iff.mp hsplit with ⟨excess, hexcess, hrest⟩ | ⟨front, rfl, -⟩
  · cases excess with
    | nil =>
      rw [List.append_nil] at hexcess
      exact ⟨[], by simp [← hexcess]⟩
    | cons c excess =>
      have hc : ']' = c := (List.cons.inj hrest).1
      have hmem : ']' ∈ ')' :: ' ' :: (word ++ [' ']) := by
        rw [hexcess, hc]
        simp
      simp [hbracket] at hmem
  · exact ⟨front, by simp⟩

/-- No range goes on behind the end of a group. -/
theorem IsRange.not_closesGroup {low high cs more rest : List Char}
    (h : IsRange low high (cs ++ ')' :: more)) : ¬ ClosesGroup (')' :: more ++ rest) := by
  intro htail
  obtain ⟨xs, hxs⟩ := h.exists_bracket_behind
  generalize htailEq : ')' :: more ++ rest = tail at htail
  cases htail with
  | last =>
    have hmem : ']' ∈ xs ++ [']'] ++ rest := by simp
    rw [← hxs, htailEq] at hmem
    exact absurd hmem (by decide)
  | @before word rest' hne hword hkeyword hbracket =>
    rw [hxs] at h htailEq
    obtain ⟨front, hfront⟩ := exists_behind_word hbracket htailEq
    rw [hfront] at h
    rw [h.isKeyword_of_parenthesis hne hword] at hkeyword
    contradiction

/-- What follows a group does not make a range of its end. -/
theorem range?_append_of_closesGroup (cs : List Char) {tail : List Char} (h : ClosesGroup tail) :
    range? (cs ++ tail) = range? cs := by
  apply range?_append
  intro low high c excess rest htail htext
  obtain ⟨after, hafter⟩ := h.exists_cons
  have hc : ')' = c := (List.cons.inj (hafter.symm.trans htail)).1
  subst hc
  rw [htail] at h
  exact htext.not_closesGroup h

/-! ## Phrases -/

/-- From behind its opening mark on, the phrase has a closing mark. -/
def closesPhrase : List Char → Bool
  | [] => false
  | '\\' :: _ :: cs => closesPhrase cs
  | '"' :: _ => true
  | _ :: cs => closesPhrase cs

/-- A phrase that is closed does not depend on what follows. -/
theorem phraseFrom_append {cs : List Char} (h : closesPhrase cs = true) (value : List Char)
    (width : Nat) (tail : List Char) :
    phraseFrom value width (cs ++ tail) = phraseFrom value width cs := by
  fun_induction closesPhrase cs generalizing value width with
  | case1 => contradiction
  | case2 c cs ih =>
    simp only [List.cons_append, phraseFrom]
    exact ih h _ _
  | case3 cs => simp [phraseFrom]
  | case4 c cs hslash hmark ih =>
    have hne : cs ≠ [] := by
      rintro rfl
      contradiction
    rw [List.cons_append, phraseFrom, phraseFrom, ih h]
    · exact hslash
    · exact hmark
    · intro d ds hc hsplit
      obtain ⟨e, es, rfl⟩ := List.exists_cons_of_ne_nil hne
      exact hslash e es hc rfl
    · exact hmark

/-- A phrase that is left open takes the rest of the text. -/
theorem width_phraseFrom_of_open {cs : List Char} (h : closesPhrase cs = false)
    (value : List Char) (width : Nat) : (phraseFrom value width cs).2 = width + cs.length := by
  fun_induction phraseFrom value width cs with
  | case1 value width => rfl
  | case2 value width c cs ih =>
    rw [ih h, List.length_cons, List.length_cons]
    omega
  | case3 value width cs => simp [closesPhrase] at h
  | case4 value width c cs hslash hmark ih =>
    rw [closesPhrase] at h
    · rw [ih h, List.length_cons]
      omega
    · exact hslash
    · exact hmark

/-! ## Pasted texts -/

/-- What follows a group does not change a symbol in it, unless that is a phrase left open. -/
theorem read_append_of_closesGroup {c : Char} {rest : List Char}
    (hphrase : c = '"' → closesPhrase rest = true) {tail : List Char} (h : ClosesGroup tail) :
    read c (rest ++ tail) = read c rest := by
  by_cases hmark : c = '"'
  · simp only [read, hmark, if_true, phraseFrom_append (hphrase hmark)]
  · exact read_append hmark h.stopsAt (range?_append_of_closesGroup rest h)

end Symbol

/-- The token is a phrase of the text without its closing mark. -/
def Token.isOpenPhrase (cs : List Char) (token : Token) : Bool :=
  match token.symbol with
  | .phrase _ => !Symbol.closesPhrase (cs.drop (token.position + 1))
  | _ => false

/-- The last token of the query is a phrase without its closing mark. -/
def endsInOpenPhrase (raw : String) : Bool :=
  (tokens raw).getLast?.any (Token.isOpenPhrase raw.toList)

namespace Symbol

/-- The rest of a text that is pasted into a group is scanned as it is, and scanning goes on behind
it, unless its last token is a phrase left open. -/
theorem scan_append_of_tokensFrom (whole : List Char) {tail : List Char} (htail : ClosesGroup tail)
    (found : List Token) (offset : Nat) (cs : List Char) (hcs : whole.drop offset = cs)
    (h : (tokensFrom found offset cs).getLast?.any (Token.isOpenPhrase whole) = false) :
    scan (cs ++ tail) = scan cs ++ scan tail := by
  fun_induction tokensFrom found offset cs with
  | case1 found offset => rw [scan_nil, List.nil_append, List.nil_append]
  | case2 found offset c rest hblank ih =>
    have hrest : whole.drop (offset + 1) = rest := by
      rw [← List.tail_drop, hcs, List.tail_cons]
    rw [List.cons_append, scan_cons_of_blank hblank, scan_cons_of_blank hblank]
    exact ih hrest h
  | case3 found offset c rest hblank symbol width hread ih =>
    have hnotBlank : Text.isBlank c = false := by simpa using hblank
    have hrest : whole.drop (offset + 1) = rest := by
      rw [← List.tail_drop, hcs, List.tail_cons]
    have hwidth : 0 < width ∧ width ≤ rest.length + 1 := by
      have hpos := width_pos c rest
      have hle := width_le hnotBlank rest
      rw [hread] at hpos hle
      exact ⟨hpos, hle⟩
    have hphrase : c = '"' → closesPhrase rest = true := by
      intro hmark
      by_contra hopen
      rw [Bool.not_eq_true] at hopen
      -- The open phrase takes all that is left, so it is the last token.
      rw [hmark, read_mark, width_phraseFrom_of_open hopen, Prod.mk.injEq] at hread
      rw [← hread.2, Nat.add_sub_cancel_left, List.drop_length, tokensFrom, List.getLast?_reverse,
        List.head?_cons, Option.any_some, ← hread.1] at h
      simp [Token.isOpenPhrase, hrest, hopen] at h
    have hsame := read_append_of_closesGroup hphrase htail
    have hnext : whole.drop (offset + width) = rest.drop (width - 1) := by
      rw [← hrest, List.drop_drop]
      congr 1
      omega
    rw [List.cons_append, scan_cons hnotBlank, scan_cons hnotBlank, hsame, hread,
      List.drop_append_of_le_length (by omega), ih hnext h, List.cons_append]

/-- The symbols of a text that is pasted into a group are its own. -/
theorem scan_append_of_closesGroup {raw : String} (h : endsInOpenPhrase raw = false)
    {tail : List Char} (htail : ClosesGroup tail) :
    scan (raw.toList ++ tail) = (tokens raw).map Token.symbol ++ scan tail := by
  rw [map_symbol_tokens]
  exact scan_append_of_tokensFrom raw.toList htail [] 0 raw.toList List.drop_zero h

end Symbol
end TextSearch
