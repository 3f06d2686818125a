import TextSearch.Text.Folding

/-!
# Sizes of automata

Texts are matched by finite automata over the bytes of their characters, one for each direction of
reading.  The size of an automaton is the memory for its states and transitions; patterns whose
automata would be too large are refused before anything is matched.

A letter with several case forms is a small automaton of its own.  Read forwards, byte sequences
share their ends; read backwards, they share their beginnings.
-/

namespace TextSearch
namespace AutomatonSize

/-- The size of a state by itself. -/
def stateSize : Nat := 32

/-- The size of a transition on a range of bytes. -/
def transitionSize : Nat := 8

/-- The size of a branch without reading. -/
def branchSize : Nat := 4

/-- The greatest size that is accepted. -/
def budget : Nat := 10 * Nat.pow 2 20

/-- A range of byte sequences: all bytes but the last are given, the last lies between two. -/
structure ByteSequences where
  lead : List Nat
  low : Nat
  high : Nat
  deriving DecidableEq

namespace ByteSequences

/-- The bytes of one character. -/
def ofChar (c : Char) : ByteSequences :=
  let bytes := (String.utf8EncodeChar c).map UInt8.toNat
  let last := bytes.getLastD 0
  ⟨bytes.dropLast, last, last⟩

/-- Put a sequence before others, of which the first may continue it. -/
def consMerge (s : ByteSequences) : List ByteSequences → List ByteSequences
  | [] => [s]
  | t :: rest =>
    if s.lead = t.lead ∧ s.high + 1 = t.low then { s with high := t.high } :: rest
    else s :: t :: rest

/-- The steps of the sequences, each the least and the greatest byte. -/
def steps (s : ByteSequences) : List (Nat × Nat) :=
  s.lead.map (fun b => (b, b)) ++ [(s.low, s.high)]

end ByteSequences

/-- The byte sequences of the case forms of a letter. -/
def formSequences (c : Char) : List ByteSequences :=
  ((Text.caseForms c).map fun n => ByteSequences.ofChar (Char.ofNat n)).foldr
    ByteSequences.consMerge []

/-- What is left of the sequences behind each of their beginnings, as long as something is. -/
def residuals (sequences : List (List (Nat × Nat))) : List (List (List (Nat × Nat))) :=
  let beginnings := (sequences.flatMap fun s => (List.range s.length).map s.take).eraseDups
  (beginnings.map fun beginning =>
    (sequences.filter beginning.isPrefixOf).map fun s => s.drop beginning.length).eraseDups

/-- The size of a set of sequences, read forwards. -/
def forwardSet (sequences : List (List (Nat × Nat))) : Nat :=
  let nodes := residuals sequences
  let transitions := nodes.map fun node => (node.filterMap List.head?).eraseDups.length
  stateSize * (1 + nodes.length) + transitionSize * transitions.foldr (· + ·) 0

/-- The size of a set of sequences, read backwards. -/
def backwardSet (sequences : List (List (Nat × Nat))) : Nat :=
  let beginnings := (sequences.flatMap fun s => (List.range s.length).map fun n => s.take (n + 1))
  stateSize * (2 + beginnings.eraseDups.length) + branchSize * sequences.length

/-- The sizes of one character in all its case forms, forwards and backwards. -/
def ofLetter (c : Char) : Nat × Nat :=
  let sequences := (formSequences c).map ByteSequences.steps
  match Text.caseForms c with
  | [] | [_] =>
    let size := stateSize * c.utf8Size
    (size, size)
  | forms =>
    if forms.all (· < 128) then
      let size := 2 * stateSize + transitionSize * sequences.length
      (size, size)
    else (forwardSet sequences, backwardSet sequences)

/-- The sizes of any character but a line end. -/
def anyChar : Nat × Nat := (424, 1000)

/-- The sizes of any run of characters without line ends. -/
def anyRun : Nat × Nat :=
  (anyChar.1 + stateSize + transitionSize, anyChar.2 + stateSize + transitionSize)

/-- The sizes of what surrounds a pattern that stands for a whole text. -/
def anchored : Nat × Nat := (6 * stateSize, 4 * stateSize)

/-- The sizes of what surrounds a pattern that is looked for within a text. -/
def floating : Nat × Nat := (anchored.1 + 112, anchored.2)

/-- The sum of sizes. -/
def plus (a b : Nat × Nat) : Nat × Nat :=
  (a.1 + b.1, a.2 + b.2)

/-- Neither direction exceeds the budget. -/
def affordable (size : Nat × Nat) : Bool :=
  size.1 ≤ budget && size.2 ≤ budget

/-- A text in all its case forms can be looked for. -/
def canLookFor (text : List Char) : Bool :=
  affordable ((text.map ofLetter).foldl plus floating)

end AutomatonSize
end TextSearch
