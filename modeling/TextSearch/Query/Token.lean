import TextSearch.Text.Terms
import TextSearch.Text.Characters

/-!
# Tokens of a query

A query is read from left to right into tokens; between tokens there is nothing but blank
characters.  At each place the first of these rules applies:

* a quotation mark opens a phrase, in which a backslash protects the next character and which ends
  at the next mark that is not protected, or with the query;
* a parenthesis is a token;
* a name followed directly by a colon opens a field;
* `[low TO high]` is a range, with two bounds that hold neither blanks nor `]`;
* otherwise the token is the longest run without blanks and parentheses: one of the words *and*,
  *or*, *not* in any case, a wildcard if it holds `*` or `?`, a plain term if not.

No text is refused.  Reading a token takes at least one character (`Symbol.width_pos`), which makes
`tokensFrom` end.
-/

namespace TextSearch

/-- What a token says. -/
inductive Symbol where
  | term (value : String)
  | phrase (value : String)
  | wildcard (pattern : String)
  /-- A field name; the colon is not part of it. -/
  | field (name : String)
  | range (low high : String)
  | and
  | or
  | not
  | opening
  | closing
  deriving DecidableEq, Repr, Inhabited

/-- A symbol and the offset of its first character in the query. -/
structure Token where
  symbol : Symbol
  position : Nat
  deriving DecidableEq, Repr, Inhabited

namespace Symbol

/-- An operand may begin with this symbol. -/
def startsOperand : Symbol → Bool
  | and | or | closing => false
  | _ => true

/-- The symbol as messages show it. -/
def describe : Symbol → String
  | term value => value
  | wildcard pattern => pattern
  | phrase value => "\"" ++ value ++ "\""
  | field name => name ++ ":"
  | range low high => "[" ++ low ++ " TO " ++ high ++ "]"
  | and => "AND"
  | or => "OR"
  | not => "NOT"
  | opening => "("
  | closing => ")"

/-! ## Classes of characters -/

/-- A parenthesis ends a word and is a token of its own. -/
def isParenthesis (c : Char) : Bool :=
  c == '(' || c == ')'

/-- A field name may begin with this character. -/
def isNameStart (c : Char) : Bool :=
  Text.isAlphabetic c || c == '_'

/-- A field name may go on with this character. -/
def isNamePart (c : Char) : Bool :=
  Text.isAlphanumeric c || c == '_'

/-- A bound of a range may hold this character. -/
def isBoundPart (c : Char) : Bool :=
  !Text.isBlank c && c != ']'

/-- A word may hold this character. -/
def isWordPart (c : Char) : Bool :=
  !Text.isBlank c && !isParenthesis c

/-- The word is the given one, apart from the case of ASCII letters. -/
def isKeyword (keyword : String) (word : List Char) : Bool :=
  word.map Char.toLower == keyword.toList

/-! ## The rules -/

/-- The longest initial part whose characters pass the test, and what follows it. -/
def cut (p : Char → Bool) (cs : List Char) : List Char × List Char :=
  (cs.takeWhile p, cs.dropWhile p)

/-- The text of a phrase, from behind its opening mark on, and the number of characters up to and
with its closing mark.  What has been read is held in reverse order. -/
def phraseFrom (value : List Char) (width : Nat) : List Char → List Char × Nat
  | [] => (value.reverse, width)
  | '\\' :: c :: cs => phraseFrom (c :: value) (width + 2) cs
  | '"' :: _ => (value.reverse, width + 1)
  | c :: cs => phraseFrom (c :: value) (width + 1) cs

/-- Reading a phrase only moves forward. -/
theorem le_width_phraseFrom (value : List Char) (width : Nat) (cs : List Char) :
    width ≤ (phraseFrom value width cs).2 := by
  fun_induction phraseFrom value width cs <;> omega

/-- The name of a field that the text begins with. -/
def fieldName? (cs : List Char) : Option (List Char) :=
  match cs with
  | [] => none
  | c :: rest =>
    let (part, after) := cut isNamePart rest
    if isNameStart c && after.head? == some ':' then some (c :: part) else none

/-- The bounds of a range, from behind its opening bracket on, and the number of characters up to
and with its closing bracket. -/
def range? (cs : List Char) : Option (List Char × List Char × Nat) :=
  let (gap₁, cs) := cut Text.isBlank cs
  let (low, cs) := cut isBoundPart cs
  let (gap₂, cs) := cut Text.isBlank cs
  let (keyword, cs) := cut isBoundPart cs
  let (gap₃, cs) := cut Text.isBlank cs
  let (high, cs) := cut isBoundPart cs
  let (gap₄, cs) := cut Text.isBlank cs
  if !low.isEmpty && !gap₂.isEmpty && isKeyword "to" keyword && !gap₃.isEmpty && !high.isEmpty
      && cs.head? == some ']' then
    some (low, high, gap₁.length + low.length + gap₂.length + keyword.length + gap₃.length
      + high.length + gap₄.length + 1)
  else none

/-- What a word without blanks and parentheses says. -/
def ofWord (word : List Char) : Symbol :=
  if isKeyword "and" word then and
  else if isKeyword "or" word then or
  else if isKeyword "not" word then not
  else if word.any (fun c => c == '*' || c == '?') then wildcard (.ofList word)
  else term (.ofList word)

/-- The symbol that a text beginning with the non-blank character `c` begins with, and the number of
characters that it takes. -/
def read (c : Char) (cs : List Char) : Symbol × Nat :=
  if c = '"' then
    let (value, width) := phraseFrom [] 1 cs
    (phrase (.ofList value), width)
  else if c = '(' then (opening, 1)
  else if c = ')' then (closing, 1)
  else
    match fieldName? (c :: cs) with
    | some name => (field (.ofList name), name.length + 1)
    | none =>
      match if c = '[' then range? cs else none with
      | some (low, high, width) => (range (.ofList low) (.ofList high), width + 1)
      | none =>
        let word := c :: cs.takeWhile isWordPart
        (ofWord word, word.length)

/-- A symbol takes at least one character. -/
theorem width_pos (c : Char) (cs : List Char) : 0 < (read c cs).2 := by
  unfold read
  split
  · exact le_width_phraseFrom [] 1 cs
  · split
    · simp
    · split
      · simp
      · split
        · simp
        · split <;> simp

end Symbol

/-- The tokens of the rest of a query, which begins at the given offset; what has been read is held
in reverse order. -/
def tokensFrom (found : List Token) (offset : Nat) (cs : List Char) : List Token :=
  match cs with
  | [] => found.reverse
  | c :: rest =>
    if Text.isBlank c then tokensFrom found (offset + 1) rest
    else
      let (symbol, width) := Symbol.read c rest
      tokensFrom (⟨symbol, offset⟩ :: found) (offset + width) (rest.drop (width - 1))
  termination_by cs.length
  decreasing_by
    · simp
    · simp only [List.length_drop, List.length_cons]
      omega

/-- The tokens of a query. -/
def tokens (query : String) : List Token :=
  tokensFrom [] 0 query.toList

end TextSearch
