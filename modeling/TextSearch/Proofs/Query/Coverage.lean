import TextSearch.Proofs.Query.Pasting

/-!
# Spans of tokens

A token keeps its first position only.  Here each token of a query is given the span of the text
that it was read from: the spans are not empty, follow one another without overlap, and leave out
nothing but blanks.  What a span says is described by the text of the span and by what stands on
its two sides, without the order in which the rules are tried (`Symbol.Spells`), and no span says
two things.

Main results:

- Theorem `Symbol.Spells.eq_of_spells`: the text of a span decides its symbol.
- Theorem `Symbol.spells_read`: the symbol that is read at a place is the one that the characters
  taken for it spell.
- Theorem `exists_covers_tokens`: the tokens of a query cover it.
- Theorem `tokens_cover_query`: the same, with everything that covering means written out.
-/

namespace TextSearch

namespace Symbol

/-! ## Phrases -/

/-- The text that the inside of a phrase stands for: a backslash is dropped and protects the
character behind it; at the end of the text it stands for itself. -/
def unescape : List Char → List Char
  | [] => []
  | '\\' :: c :: cs => c :: unescape cs
  | c :: cs => c :: unescape cs

/-- A phrase that is left open stands for all that follows its mark. -/
theorem phraseFrom_of_open {cs : List Char} (h : closesPhrase cs = false) (value : List Char)
    (width : Nat) :
    phraseFrom value width cs = (value.reverse ++ unescape cs, width + cs.length) := by
  refine Prod.ext ?_ (width_phraseFrom_of_open h value width)
  fun_induction phraseFrom value width cs with
  | case1 value width => simp [unescape]
  | case2 value width c cs ih =>
    rw [closesPhrase] at h
    simp [ih h, unescape]
  | case3 value width cs => simp [closesPhrase] at h
  | case4 value width c cs hslash hmark ih =>
    rw [closesPhrase] at h
    · rw [ih h, unescape]
      · simp
      · exact hslash
    · exact hslash
    · exact hmark

/-- The text stands between the marks of a phrase: the mark behind it is the first one that is not
protected. -/
structure IsInside (inside : List Char) : Prop where
  unclosed : closesPhrase inside = false
  closed : closesPhrase (inside ++ ['"']) = true

/-- Nothing at all stands between the marks of the empty phrase. -/
theorem IsInside.nil : IsInside [] where
  unclosed := rfl
  closed := rfl

/-- Whatever is protected may stand in front inside the phrase. -/
theorem isInside_protected (c : Char) (cs : List Char) :
    IsInside ('\\' :: c :: cs) ↔ IsInside cs := by
  constructor
  · rintro ⟨hunclosed, hclosed⟩
    exact ⟨hunclosed, hclosed⟩
  · rintro ⟨hunclosed, hclosed⟩
    exact ⟨hunclosed, hclosed⟩

/-- A mark that is not protected ends the phrase. -/
theorem not_isInside_mark (cs : List Char) : ¬ IsInside ('"' :: cs) := by
  rintro ⟨hunclosed, -⟩
  simp [closesPhrase] at hunclosed

/-- Any character but a mark or a backslash may stand in front inside the phrase. -/
theorem isInside_cons {c : Char} {cs : List Char} (hslash : c ≠ '\\') (hmark : c ≠ '"') :
    IsInside (c :: cs) ↔ IsInside cs := by
  have hplain : ∀ cs, closesPhrase (c :: cs) = closesPhrase cs := by
    intro cs
    rw [closesPhrase]
    · intro d ds hc
      exact absurd hc hslash
    · exact hmark
  constructor
  · rintro ⟨hunclosed, hclosed⟩
    rw [List.cons_append, hplain] at hclosed
    rw [hplain] at hunclosed
    exact ⟨hunclosed, hclosed⟩
  · rintro ⟨hunclosed, hclosed⟩
    refine ⟨?_, ?_⟩
    · rw [hplain]
      exact hunclosed
    · rw [List.cons_append, hplain]
      exact hclosed

/-- Up to its closing mark, a phrase stands for what is between its marks. -/
theorem phraseFrom_of_isInside {inside : List Char} (h : IsInside inside) (value : List Char)
    (width : Nat) (tail : List Char) :
    phraseFrom value width (inside ++ '"' :: tail) =
      (value.reverse ++ unescape inside, width + inside.length + 1) := by
  fun_induction unescape inside generalizing value width with
  | case1 => simp [phraseFrom]
  | case2 c cs ih =>
    rw [isInside_protected] at h
    simp only [List.cons_append, phraseFrom, ih h, List.length_cons]
    simp
    omega
  | case3 c cs hslash ih =>
    have hmark : c ≠ '"' := by
      rintro rfl
      exact not_isInside_mark cs h
    have hplain : c ≠ '\\' := by
      rintro rfl
      cases cs with
      | nil => exact absurd h.closed (by decide)
      | cons d ds => exact hslash d ds rfl rfl
    rw [isInside_cons hplain hmark] at h
    rw [List.cons_append, phraseFrom, ih h]
    · simp
      omega
    · intro d ds hc
      exact absurd hc hplain
    · exact hmark

/-- A phrase that is closed has its inside before its closing mark. -/
theorem exists_isInside {cs : List Char} (h : closesPhrase cs = true) :
    ∃ inside rest, IsInside inside ∧ cs = inside ++ '"' :: rest := by
  fun_induction closesPhrase cs with
  | case1 => contradiction
  | case2 c cs ih =>
    obtain ⟨inside, rest, hinside, rfl⟩ := ih h
    exact ⟨'\\' :: c :: inside, rest, (isInside_protected c inside).mpr hinside, rfl⟩
  | case3 cs => exact ⟨[], cs, IsInside.nil, rfl⟩
  | case4 c cs hslash hmark ih =>
    obtain ⟨inside, rest, hinside, rfl⟩ := ih h
    have hplain : c ≠ '\\' := by
      rintro rfl
      cases inside with
      | nil => exact hslash '"' rest rfl rfl
      | cons d inside => exact hslash d _ rfl rfl
    exact ⟨c :: inside, rest, (isInside_cons hplain hmark).mpr hinside, rfl⟩

/-! ## Words -/

/-- The span is a word: it holds neither blanks nor parentheses and ends at the next of them, and
neither a phrase nor a field begins with it. -/
structure IsWholeWord (span behind : List Char) : Prop where
  ne_nil : span ≠ []
  parts : ∀ c ∈ span, Text.isBlank c = false ∧ isParenthesis c = false
  ends : ∀ c ∈ behind.head?, Text.isBlank c = true ∨ isParenthesis c = true
  not_phrase : span.head? ≠ some '"'
  not_field : ∀ name rest, IsName name → span ≠ name ++ ':' :: rest

/-- A word is whole when no character of a word follows it. -/
theorem isWholeWord_iff (span behind : List Char) :
    IsWholeWord span behind ↔ IsWord span ∧ StopsAt isWordPart behind := by
  constructor
  · intro h
    obtain ⟨c, cs, rfl⟩ := List.exists_cons_of_ne_nil h.ne_nil
    refine ⟨⟨⟨c, rfl, ?_⟩, ?_, ?_⟩, ?_⟩
    · intro hmark
      exact h.not_phrase (by rw [hmark, List.head?_cons])
    · intro d hd
      simp [isWordPart, h.parts d hd]
    · rw [Option.eq_none_iff_forall_ne_some]
      intro name hname
      obtain ⟨hisName, rest, hsplit⟩ := (fieldName?_eq_some_iff _ _).mp hname
      exact h.not_field name rest hisName hsplit
    · intro d hd
      rcases h.ends d hd with hblank | hparenthesis
      · simp [isWordPart, hblank]
      · simp [isWordPart, hparenthesis]
  · rintro ⟨hword, hstop⟩
    obtain ⟨c, hc, hmark⟩ := hword.start
    refine ⟨?_, ?_, ?_, ?_, ?_⟩
    · rintro rfl
      simp at hc
    · intro d hd
      simpa [isWordPart] using hword.parts d hd
    · intro d hd
      have hnot := hstop d hd
      rw [isWordPart, Bool.and_eq_false_iff] at hnot
      simpa using hnot
    · rw [hc]
      simpa using hmark
    · intro name rest hname hsplit
      have hfield := (fieldName?_eq_some_iff span name).mpr ⟨hname, rest, hsplit⟩
      rw [hword.not_field] at hfield
      contradiction

/-- The word is one of the operators, in any case. -/
def IsOperator (word : List Char) : Prop :=
  isKeyword "and" word = true ∨ isKeyword "or" word = true ∨ isKeyword "not" word = true

/-- A character of the word stands for other characters. -/
def HasWildcard (word : List Char) : Prop :=
  '*' ∈ word ∨ '?' ∈ word

/-! ## Spelling in place -/

/-- The span of a text, between what stands before it and what stands behind it, says the
symbol. -/
def Spells (before span behind : List Char) : Symbol → Prop
  | term value => span = value.toList ∧ IsWholeWord span behind ∧ ¬ IsOperator span ∧
      ¬ HasWildcard span
  | wildcard pattern => span = pattern.toList ∧ IsWholeWord span behind ∧ ¬ IsOperator span ∧
      HasWildcard span
  | and => isKeyword "and" span = true ∧ IsWholeWord span behind
  | or => isKeyword "or" span = true ∧ IsWholeWord span behind
  | not => isKeyword "not" span = true ∧ IsWholeWord span behind
  -- No character of a name stands before it, and the colon ends it: the name cannot be longer.
  | field name => span = name.toList ++ [':'] ∧ IsName name.toList ∧
      ∀ c ∈ before.getLast?, isNamePart c = false
  | range low high => ∃ text, span = '[' :: text ∧ IsRange low.toList high.toList text
  | phrase value =>
      (∃ inside, span = '"' :: (inside ++ ['"']) ∧ IsInside inside ∧
        value.toList = unescape inside) ∨
      (∃ inside, span = '"' :: inside ∧ behind = [] ∧ closesPhrase inside = false ∧
        value.toList = unescape inside)
  | opening => span = ['(']
  | closing => span = [')']

/-! ### One symbol for a span -/

/-- No word is two operators. -/
theorem isKeyword_eq_false {keyword : String} (other : String) {word : List Char}
    (h : isKeyword keyword word = true) (hne : keyword.toList ≠ other.toList) :
    isKeyword other word = false := by
  rw [isKeyword, beq_iff_eq] at h
  rw [isKeyword, h]
  simpa using hne

/-- Looking for a wildcard finds one exactly when there is one. -/
theorem any_eq_true_iff_hasWildcard (word : List Char) :
    word.any (fun c => c == '*' || c == '?') = true ↔ HasWildcard word := by
  simp only [List.any_eq_true, Bool.or_eq_true, beq_iff_eq, HasWildcard]
  constructor
  · rintro ⟨c, hc, rfl | rfl⟩
    · exact Or.inl hc
    · exact Or.inr hc
  · rintro (h | h)
    · exact ⟨'*', h, Or.inl rfl⟩
    · exact ⟨'?', h, Or.inr rfl⟩

/-- A word says what is not an operator word for word. -/
theorem ofWord_of_not_isOperator {word : List Char} (h : ¬ IsOperator word) :
    ofWord word = if word.any (fun c => c == '*' || c == '?') then wildcard (.ofList word)
      else term (.ofList word) := by
  simp only [IsOperator, not_or, Bool.not_eq_true] at h
  simp [ofWord, h]

/-- A whole word alone is scanned as what it says. -/
theorem IsWholeWord.scan_eq {span behind : List Char} (h : IsWholeWord span behind) :
    scan span = [ofWord span] := by
  have hword := ((isWholeWord_iff span behind).mp h).1
  have hrange : ∀ rest, span = '[' :: rest → range? (rest ++ []) = none := by
    rintro rest rfl
    rw [List.append_nil, Option.eq_none_iff_forall_ne_some]
    rintro ⟨low, high, width⟩ hrange
    obtain ⟨text, excess, htext, rfl, -⟩ := isRange_of_range? hrange
    obtain ⟨c, hc, hblank⟩ := htext.exists_blank
    have hnotBlank := (h.parts c (by simp [hc])).1
    rw [hblank] at hnotBlank
    contradiction
  have hfield : fieldName? (span ++ []) = none := by
    rw [List.append_nil]
    exact hword.not_field
  have hscan := scan_word hword hfield (stopsAt_nil _) hrange
  simpa using hscan

/-- A span alone is scanned as the symbol that it says in its place. -/
theorem Spells.scan_eq {before span behind : List Char} {symbol : Symbol}
    (h : Spells before span behind symbol) : scan span = [symbol] := by
  cases symbol with
  | term value =>
    obtain ⟨hvalue, hword, hoperator, hwild⟩ := h
    rw [← any_eq_true_iff_hasWildcard] at hwild
    rw [hword.scan_eq, ofWord_of_not_isOperator hoperator, if_neg hwild, hvalue,
      String.ofList_toList]
  | wildcard pattern =>
    obtain ⟨hpattern, hword, hoperator, hwild⟩ := h
    rw [← any_eq_true_iff_hasWildcard] at hwild
    rw [hword.scan_eq, ofWord_of_not_isOperator hoperator, if_pos hwild, hpattern,
      String.ofList_toList]
  | and =>
    obtain ⟨hkeyword, hword⟩ := h
    rw [hword.scan_eq]
    simp [ofWord, hkeyword]
  | or =>
    obtain ⟨hkeyword, hword⟩ := h
    rw [hword.scan_eq]
    simp [ofWord, hkeyword, isKeyword_eq_false "and" hkeyword (by decide)]
  | not =>
    obtain ⟨hkeyword, hword⟩ := h
    rw [hword.scan_eq]
    simp [ofWord, hkeyword, isKeyword_eq_false "and" hkeyword (by decide),
      isKeyword_eq_false "or" hkeyword (by decide)]
  | field name =>
    obtain ⟨rfl, hname, -⟩ := h
    rw [scan_field hname []]
    simp
  | range low high =>
    obtain ⟨text, rfl, htext⟩ := h
    have hscan := scan_range htext []
    simpa using hscan
  | phrase value =>
    rcases h with ⟨inside, rfl, hinside, hvalue⟩ | ⟨inside, rfl, -, hopen, hvalue⟩
    · have hread : read '"' (inside ++ ['"'] ++ []) =
          (phrase (.ofList (unescape inside)), (inside ++ ['"']).length + 1) := by
        rw [List.append_nil, read_mark, phraseFrom_of_isInside hinside]
        simp
        omega
      have hscan := scan_of_read (by decide) hread
      rw [← hvalue, String.ofList_toList] at hscan
      simpa using hscan
    · have hread : read '"' (inside ++ []) =
          (phrase (.ofList (unescape inside)), inside.length + 1) := by
        rw [List.append_nil, read_mark, phraseFrom_of_open hopen]
        simp
        omega
      have hscan := scan_of_read (by decide) hread
      rw [← hvalue, String.ofList_toList] at hscan
      simpa using hscan
  | opening =>
    rw [show span = ['('] from h, scan_opening, scan_nil]
  | closing =>
    rw [show span = [')'] from h, scan_closing, scan_nil]

/-- The text of a span decides its symbol. -/
theorem Spells.eq_of_spells {before span behind before' behind' : List Char}
    {symbol symbol' : Symbol} (h : Spells before span behind symbol)
    (h' : Spells before' span behind' symbol') : symbol = symbol' := by
  have hscan : [symbol] = [symbol'] := by
    rw [← h.scan_eq, h'.scan_eq]
  simpa using hscan

/-! ### The span that is read -/

/-- No name goes on across the place between two texts. -/
def NoNameAcross (before behind : List Char) : Prop :=
  ∀ c ∈ before.getLast?, ∀ d ∈ behind.head?, isNamePart c = true → isNamePart d = false

theorem noNameAcross_nil (before : List Char) : NoNameAcross before [] := by
  intro c hc d hd
  simp at hd

/-- No name goes on across a character that names do not have. -/
theorem noNameAcross_append_singleton (before : List Char) {c : Char} (h : isNamePart c = false)
    (behind : List Char) : NoNameAcross (before ++ [c]) behind := by
  intro d hd e he hpart
  rw [List.getLast?_concat, Option.mem_some_iff] at hd
  rw [← hd, h] at hpart
  contradiction

/-- No name goes on across the end of a whole word. -/
theorem IsWholeWord.noNameAcross {span behind : List Char} (h : IsWholeWord span behind)
    (before : List Char) : NoNameAcross (before ++ span) behind := by
  intro c hc d hd hpart
  have hstop := ((isWholeWord_iff span behind).mp h).2 d hd
  have hnot := not_namePart_of_not_wordPart hstop
  rw [Bool.or_eq_false_iff] at hnot
  exact hnot.1

/-- No name goes on across the end of a span. -/
theorem Spells.noNameAcross {before span behind : List Char} {symbol : Symbol}
    (h : Spells before span behind symbol) : NoNameAcross (before ++ span) behind := by
  -- Every other span than a word ends with a mark that no name holds, or with the text.
  have hends : ∀ xs c, isNamePart c = false → span = xs ++ [c] →
      NoNameAcross (before ++ span) behind := by
    rintro xs c hc rfl
    rw [← List.append_assoc]
    exact noNameAcross_append_singleton _ hc behind
  cases symbol with
  | term value => exact h.2.1.noNameAcross before
  | wildcard pattern => exact h.2.1.noNameAcross before
  | and => exact h.2.noNameAcross before
  | or => exact h.2.noNameAcross before
  | not => exact h.2.noNameAcross before
  | field name => exact hends _ ':' (by decide) h.1
  | range low high =>
    obtain ⟨text, rfl, htext⟩ := h
    obtain ⟨body, rfl⟩ := htext.exists_bracket
    exact hends ('[' :: body) ']' (by decide) rfl
  | phrase value =>
    rcases h with ⟨inside, rfl, -, -⟩ | ⟨inside, -, rfl, -, -⟩
    · exact hends ('"' :: inside) '"' (by decide) rfl
    · exact noNameAcross_nil _
  | opening => exact hends [] '(' (by decide) h
  | closing => exact hends [] ')' (by decide) h

/-- A whole word says what its letters and its wildcards make of it. -/
theorem spells_ofWord (before : List Char) {word behind : List Char}
    (h : IsWholeWord word behind) : Spells before word behind (ofWord word) := by
  by_cases hand : isKeyword "and" word = true
  · have hsymbol : ofWord word = and := by simp [ofWord, hand]
    rw [hsymbol]
    exact ⟨hand, h⟩
  by_cases hor : isKeyword "or" word = true
  · have hsymbol : ofWord word = or := by simp [ofWord, hand, hor]
    rw [hsymbol]
    exact ⟨hor, h⟩
  by_cases hnot : isKeyword "not" word = true
  · have hsymbol : ofWord word = not := by simp [ofWord, hand, hor, hnot]
    rw [hsymbol]
    exact ⟨hnot, h⟩
  have hoperator : ¬ IsOperator word := by
    rintro (hword | hword | hword)
    · exact hand hword
    · exact hor hword
    · exact hnot hword
  rw [ofWord_of_not_isOperator hoperator]
  split
  · rename_i hwild
    rw [any_eq_true_iff_hasWildcard] at hwild
    exact ⟨String.toList_ofList.symm, h, hoperator, hwild⟩
  · rename_i hwild
    rw [any_eq_true_iff_hasWildcard] at hwild
    exact ⟨String.toList_ofList.symm, h, hoperator, hwild⟩

/-- The symbol that is read at a place is the one that the characters taken for it say there. -/
theorem spells_read {before : List Char} {c : Char} {cs : List Char}
    (hblank : Text.isBlank c = false) (hbefore : NoNameAcross before (c :: cs)) :
    ∃ span behind, c :: cs = span ++ behind ∧ span.length = (read c cs).2 ∧
      Spells before span behind (read c cs).1 := by
  have hreads := reads_read hblank cs
  generalize read c cs = found at hreads ⊢
  cases hreads with
  | phrase hmark =>
    subst hmark
    cases hclosed : closesPhrase cs with
    | true =>
      obtain ⟨inside, rest, hinside, rfl⟩ := exists_isInside hclosed
      rw [phraseFrom_of_isInside hinside]
      refine ⟨'"' :: (inside ++ ['"']), rest, by simp, by simp; omega, ?_⟩
      exact Or.inl ⟨inside, rfl, hinside, by simp⟩
    | false =>
      rw [phraseFrom_of_open hclosed]
      refine ⟨'"' :: cs, [], by simp, by simp; omega, ?_⟩
      exact Or.inr ⟨cs, rfl, rfl, hclosed, by simp⟩
  | opening hc => exact ⟨['('], cs, by rw [hc]; rfl, rfl, rfl⟩
  | closing hc => exact ⟨[')'], cs, by rw [hc]; rfl, rfl, rfl⟩
  | @field name rest hname hsplit =>
    refine ⟨name ++ [':'], rest, by simp [hsplit], by simp, by simp, by simpa using hname, ?_⟩
    intro d hd
    by_contra hpart
    rw [Bool.not_eq_false] at hpart
    -- The name would go on from the characters before the place.
    obtain ⟨e, he, hstart⟩ := hname.start
    have hhead : e ∈ (c :: cs).head? := by
      rw [hsplit, List.head?_append, Option.mem_def.mp he]
      rfl
    have hnot := hbefore d hd e hhead hpart
    rw [isNamePart_of_isNameStart hstart] at hnot
    contradiction
  | @range low high text rest hbracket htext hsplit =>
    refine ⟨'[' :: text, rest, by rw [hbracket, hsplit]; rfl, by simp, text, rfl, ?_⟩
    simpa using htext
  | @word word rest hword hsplit hstop =>
    refine ⟨word, rest, hsplit, rfl, spells_ofWord before ?_⟩
    exact (isWholeWord_iff word rest).mpr ⟨hword, hstop⟩

end Symbol

/-! ## Spans -/

/-- A stretch of a text, by the offsets of its first character and of the one behind its last. -/
structure Span where
  start : Nat
  stop : Nat
  deriving DecidableEq, Repr

namespace Span

/-- The character at the offset is in the span. -/
def Holds (span : Span) (offset : Nat) : Prop :=
  span.start ≤ offset ∧ offset < span.stop

/-- The characters of the span. -/
def text (whole : List Char) (span : Span) : List Char :=
  (whole.take span.stop).drop span.start

end Span

/-- The token stands in the span of the text: it begins where the span does, with a character that
is not blank, and the span says its symbol. -/
structure Token.StandsIn (whole : List Char) (token : Token) (span : Span) : Prop where
  start_eq : span.start = token.position
  start_lt : span.start < span.stop
  stop_le : span.stop ≤ whole.length
  visible : ∃ c, whole[token.position]? = some c ∧ Text.isBlank c = false
  spells : Symbol.Spells (whole.take span.start) (span.text whole) (whole.drop span.stop)
    token.symbol

/-- Behind a span, the text before the place has grown by it. -/
theorem take_drop_of_drop_eq_append {whole span behind : List Char} {offset : Nat}
    (h : whole.drop offset = span ++ behind) :
    whole.take (offset + span.length) = whole.take offset ++ span ∧
      whole.drop (offset + span.length) = behind := by
  constructor
  · rw [List.take_add, h, List.take_left]
  · rw [← List.drop_drop, h, List.drop_left]

/-- A token that is read at a place stands in the characters that were taken for it. -/
theorem Token.standsIn_of_spells {whole span behind : List Char} {token : Token}
    (hplace : whole.drop token.position = span ++ behind) (hne : span ≠ [])
    (hvisible : ∀ c ∈ (span ++ behind).head?, Text.isBlank c = false)
    (h : Symbol.Spells (whole.take token.position) span behind token.symbol) :
    token.StandsIn whole ⟨token.position, token.position + span.length⟩ where
  start_eq := rfl
  start_lt := Nat.lt_add_of_pos_right (List.length_pos_of_ne_nil hne)
  stop_le := by
    have hlength := congrArg List.length hplace
    have hpos := List.length_pos_of_ne_nil hne
    simp only [List.length_drop, List.length_append] at hlength
    show token.position + span.length ≤ whole.length
    omega
  visible := by
    obtain ⟨c, cs, rfl⟩ := List.exists_cons_of_ne_nil hne
    refine ⟨c, ?_, hvisible c rfl⟩
    rw [← List.head?_drop, hplace]
    rfl
  spells := by
    have htext : Span.text whole ⟨token.position, token.position + span.length⟩ = span := by
      rw [Span.text, List.drop_take, hplace, Nat.add_sub_cancel_left, List.take_left]
    rw [htext, (take_drop_of_drop_eq_append hplace).2]
    exact h

/-- The tokens stand in the spans, one in each, and from the offset on the spans leave out nothing
but blanks. -/
structure Covers (whole : List Char) (offset : Nat) (tokens : List Token) (spans : List Span) :
    Prop where
  standsIn : List.Forall₂ (Token.StandsIn whole) tokens spans
  ordered : spans.Pairwise fun a b => a.stop ≤ b.start
  behind : ∀ span ∈ spans, offset ≤ span.start
  outside : ∀ i c, offset ≤ i → whole[i]? = some c → (∀ span ∈ spans, ¬ span.Holds i) →
    Text.isBlank c = true

namespace Covers

/-- Behind the end of a text there is nothing to cover. -/
theorem nil {whole : List Char} {offset : Nat} (h : whole.drop offset = []) :
    Covers whole offset [] [] where
  standsIn := .nil
  ordered := .nil
  behind := by simp
  outside := by
    intro i c hi hc
    have hlength := List.drop_eq_nil_iff.mp h
    rw [List.getElem?_eq_none (by omega)] at hc
    contradiction

/-- A blank is left out. -/
theorem blank {whole rest : List Char} {offset : Nat} {c : Char} {tokens : List Token}
    {spans : List Span} (hplace : whole.drop offset = c :: rest) (hblank : Text.isBlank c = true)
    (h : Covers whole (offset + 1) tokens spans) : Covers whole offset tokens spans where
  standsIn := h.standsIn
  ordered := h.ordered
  behind := fun span hspan => Nat.le_of_succ_le (h.behind span hspan)
  outside := by
    intro i d hi hd hnot
    by_cases hhere : i = offset
    · have hget := congrArg List.head? hplace
      rw [List.head?_drop, ← hhere, hd, List.head?_cons] at hget
      rw [Option.some.inj hget]
      exact hblank
    · exact h.outside i d (by omega) hd hnot

/-- A token covers the characters that it is read from. -/
theorem cons {whole : List Char} {offset stop : Nat} {token : Token} {tokens : List Token}
    {spans : List Span} (htoken : token.StandsIn whole ⟨offset, stop⟩)
    (h : Covers whole stop tokens spans) :
    Covers whole offset (token :: tokens) (⟨offset, stop⟩ :: spans) where
  standsIn := .cons htoken h.standsIn
  ordered := List.pairwise_cons.mpr ⟨h.behind, h.ordered⟩
  behind := by
    intro span hspan
    rcases List.mem_cons.mp hspan with rfl | hspan
    · exact Nat.le_refl _
    · exact Nat.le_trans (Nat.le_of_lt htoken.start_lt) (h.behind span hspan)
  outside := by
    intro i c hi hc hnot
    rw [List.forall_mem_cons] at hnot
    refine h.outside i c ?_ hc hnot.2
    by_contra hlt
    exact hnot.1 ⟨hi, Nat.lt_of_not_le hlt⟩

end Covers

/-- From any place where no name is cut, the tokens that are read cover the rest of the query. -/
theorem exists_covers_tokensFrom (whole : List Char) (found : List Token) (offset : Nat)
    (cs : List Char) (hplace : whole.drop offset = cs)
    (hname : Symbol.NoNameAcross (whole.take offset) cs) :
    ∃ tokens spans, tokensFrom found offset cs = found.reverse ++ tokens ∧
      Covers whole offset tokens spans := by
  fun_induction tokensFrom found offset cs with
  | case1 found offset => exact ⟨[], [], by simp, Covers.nil hplace⟩
  | case2 found offset c rest hblank ih =>
    obtain ⟨htaken, hrest⟩ : whole.take (offset + 1) = whole.take offset ++ [c] ∧
        whole.drop (offset + 1) = rest := @take_drop_of_drop_eq_append whole [c] rest offset hplace
    have hnotPart : Symbol.isNamePart c = false := by
      by_contra hpart
      rw [Bool.not_eq_false] at hpart
      rw [Symbol.isBlank_of_isNamePart hpart] at hblank
      contradiction
    have hnext : Symbol.NoNameAcross (whole.take (offset + 1)) rest := by
      rw [htaken]
      exact Symbol.noNameAcross_append_singleton _ hnotPart rest
    obtain ⟨tokens, spans, htokens, hcovers⟩ := ih hrest hnext
    exact ⟨tokens, spans, htokens, hcovers.blank hplace hblank⟩
  | case3 found offset c rest hblank symbol width hread ih =>
    rw [Bool.not_eq_true] at hblank
    obtain ⟨span, behind, hsplit, hlength, hspells⟩ := Symbol.spells_read hblank hname
    have hpos := Symbol.width_pos c rest
    rw [hread] at hlength hspells hpos
    subst hlength
    have hne : span ≠ [] := List.ne_nil_of_length_pos hpos
    have hvisible : ∀ d ∈ (span ++ behind).head?, Text.isBlank d = false := by
      rw [← hsplit]
      simpa using hblank
    rw [hsplit] at hplace
    have htoken : Token.StandsIn whole ⟨symbol, offset⟩ ⟨offset, offset + span.length⟩ :=
      Token.standsIn_of_spells hplace hne hvisible hspells
    obtain ⟨htaken, hbehind⟩ := take_drop_of_drop_eq_append hplace
    have hrest : rest.drop (span.length - 1) = behind := by
      obtain ⟨d, ds, rfl⟩ := List.exists_cons_of_ne_nil hne
      rw [List.cons_append] at hsplit
      rw [(List.cons.inj hsplit).2, List.length_cons, Nat.add_sub_cancel, List.drop_left]
    have hnext : Symbol.NoNameAcross (whole.take (offset + span.length))
        (rest.drop (span.length - 1)) := by
      rw [htaken, hrest]
      exact hspells.noNameAcross
    obtain ⟨tokens, spans, htokens, hcovers⟩ := ih (hbehind.trans hrest.symm) hnext
    refine ⟨⟨symbol, offset⟩ :: tokens, ⟨offset, offset + span.length⟩ :: spans, ?_,
      hcovers.cons htoken⟩
    rw [htokens, List.reverse_cons, List.append_assoc, List.singleton_append]

/-- The tokens of a query cover it. -/
theorem exists_covers_tokens (raw : String) :
    ∃ spans, Covers raw.toList 0 (tokens raw) spans := by
  have hname : Symbol.NoNameAcross (raw.toList.take 0) raw.toList := by
    intro c hc
    simp at hc
  obtain ⟨read, spans, htokens, hcovers⟩ :=
    exists_covers_tokensFrom raw.toList [] 0 raw.toList rfl hname
  refine ⟨spans, ?_⟩
  rw [tokens, htokens]
  exact hcovers

/-- Every token of a query stands at a character of it that is not blank. -/
theorem exists_visible_of_mem_tokens {raw : String} {token : Token} (h : token ∈ tokens raw) :
    ∃ c, raw.toList[token.position]? = some c ∧ Text.isBlank c = false := by
  obtain ⟨spans, hcovers⟩ := exists_covers_tokens raw
  obtain ⟨i, hi, rfl⟩ := List.mem_iff_getElem.mp h
  have hlength := hcovers.standsIn.length_eq
  exact (hcovers.standsIn.get hi (hlength ▸ hi)).visible

/-- The tokens of a query stand in spans of it, one in each: the spans are not empty, they follow
one another without overlap, and whatever is outside them is blank.  Each token has the position at
which its span starts and the symbol that the span says; no span says two symbols. -/
theorem tokens_cover_query (raw : String) :
    ∃ spans : List Span,
      List.Forall₂ (fun token span =>
          token.position = span.start ∧ span.start < span.stop ∧
            span.stop ≤ raw.toList.length ∧
            ∀ symbol, Symbol.Spells (raw.toList.take span.start) (span.text raw.toList)
              (raw.toList.drop span.stop) symbol ↔ symbol = token.symbol)
        (tokens raw) spans ∧
      (spans.Pairwise fun a b => a.stop ≤ b.start) ∧
      ∀ i c, raw.toList[i]? = some c → (∀ span ∈ spans, ¬ span.Holds i) →
        Text.isBlank c = true := by
  obtain ⟨spans, hcovers⟩ := exists_covers_tokens raw
  refine ⟨spans, hcovers.standsIn.imp ?_, hcovers.ordered, ?_⟩
  · intro token span hstands
    refine ⟨hstands.start_eq.symm, hstands.start_lt, hstands.stop_le, ?_⟩
    intro symbol
    constructor
    · intro hspells
      exact hspells.eq_of_spells hstands.spells
    · rintro rfl
      exact hstands.spells
  · intro i c hc hnot
    exact hcovers.outside i c (Nat.zero_le i) hc hnot

/-- A bracket that opens no range belongs to a word, and a protected mark closes no phrase. -/
example : tokens "[a to (b x:\"c\\\" d" =
    [⟨.term "[a", 0⟩, ⟨.term "to", 3⟩, ⟨.opening, 6⟩, ⟨.term "b", 7⟩, ⟨.field "x", 9⟩,
      ⟨.phrase "c\" d", 11⟩] := by
  decide +kernel

end TextSearch
