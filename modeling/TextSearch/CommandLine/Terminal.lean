import TextSearch.Options
import TextSearch.Text.Terms

/-!
# Terminals

Texts are coloured for terminals, with one palette for dark and one for light backgrounds.  Colours
are switched on and off by codes, which begin with an escape character, end with the letter `m` and
take no room.
-/

namespace TextSearch
namespace CommandLine

/-- The background of a terminal. -/
inductive Theme where
  | dark
  | light
  deriving DecidableEq, Repr

/-- What is known of the terminal from outside. -/
structure Surroundings where
  /-- The output goes to a terminal. -/
  isTerminal : Bool
  /-- Colours are not wanted; the value does not matter. -/
  noColor : Option String
  /-- The theme that is asked for. -/
  theme : Option String
  /-- The numbers of the foreground and the background colour. -/
  colorFgBg : Option String

/-- How texts are shown. -/
structure Terminal where
  colored : Bool
  theme : Theme
  deriving DecidableEq, Repr

/-! ## Finding out the theme -/

/-- The theme with the given name or initial. -/
def Theme.ofName? (text : String) : Option Theme :=
  let name := Text.lowercase text
  if name = "light" ∨ name = "l" then some .light
  else if name = "dark" ∨ name = "d" then some .dark
  else none

/-- The part of a text behind the last semicolon. -/
def lastPart (cs : List Char) : List Char :=
  (cs.reverse.takeWhile (· != ';')).reverse

/-- The number of a background colour, below 256. -/
def backgroundNumber? (text : String) : Option Nat :=
  let ds :=
    match lastPart text.toList with
    | '+' :: ds => ds
    | ds => ds
  if ds.isEmpty || !ds.all Char.isDigit then none
  else
    let n := ds.foldl (fun n c => min (n * 10 + (c.toNat - '0'.toNat)) 256) 0
    if n < 256 then some n else none

/-- The theme for a background colour; eight is a dark grey. -/
def Theme.ofBackground (number : Nat) : Theme :=
  if 7 ≤ number ∧ number ≠ 8 then .light else .dark

/-- The theme of the surroundings. -/
def Surroundings.themeFound (surroundings : Surroundings) : Theme :=
  match surroundings.theme.bind Theme.ofName? with
  | some theme => theme
  | none =>
    match surroundings.colorFgBg.bind backgroundNumber? with
    | some number => .ofBackground number
    | none => .dark

/-- How texts are shown in the surroundings. -/
def Surroundings.terminal (surroundings : Surroundings) : Terminal :=
  ⟨surroundings.isTerminal && surroundings.noColor.isNone, surroundings.themeFound⟩

/-! ## Codes -/

/-- The colours of the palettes. -/
inductive Color where
  | green
  | yellow
  | cyan
  | gray
  | red
  deriving DecidableEq, Repr

/-- The amounts of red, green and blue. -/
def Color.parts : Theme → Color → Nat × Nat × Nat
  | .dark, .green => (152, 195, 121)
  | .dark, .yellow => (229, 192, 123)
  | .dark, .cyan => (86, 182, 194)
  | .dark, .gray => (92, 99, 112)
  | .dark, .red => (224, 108, 117)
  | .light, .green => (80, 161, 79)
  | .light, .yellow => (193, 132, 1)
  | .light, .cyan => (1, 132, 188)
  | .light, .gray => (160, 161, 167)
  | .light, .red => (228, 86, 73)

/-- A code with the given inside. -/
def code (inside : String) : String :=
  "\x1b[" ++ inside ++ "m"

/-- The code that switches to a colour. -/
def Color.code (theme : Theme) (color : Color) : String :=
  let (r, g, b) := color.parts theme
  CommandLine.code ("38;2;" ++ r.repr ++ ";" ++ g.repr ++ ";" ++ b.repr)

/-- The code that ends all others. -/
def resetCode : String := code "0"

/-- The weights of texts. -/
inductive Weight where
  | plain
  | bold
  | dim
  deriving DecidableEq, Repr

/-- The code that switches to a weight. -/
def Weight.code : Weight → String
  | plain => ""
  | bold => CommandLine.code "1"
  | dim => CommandLine.code "2"

/-- A text in a colour, if colours are on. -/
def Terminal.themed (terminal : Terminal) (color : Color) (weight : Weight) (text : String) :
    String :=
  if terminal.colored then weight.code ++ color.code terminal.theme ++ text ++ resetCode
  else text

/-- The marks for terms on a terminal with colours. -/
def Terminal.marks? (terminal : Terminal) : Option Marks :=
  if terminal.colored then
    some ⟨Weight.code .bold ++ Color.code terminal.theme .yellow, resetCode⟩
  else none

/-- The number of characters of a text that take room; `inCode` says whether a code has begun. -/
def visibleFrom (inCode : Bool) (width : Nat) : List Char → Nat
  | [] => width
  | c :: cs =>
    if c = '\x1b' then visibleFrom true width cs
    else if inCode then visibleFrom (c != 'm') width cs
    else visibleFrom false (width + 1) cs

/-- The room that a text takes. -/
def visibleWidth (text : String) : Nat :=
  visibleFrom false 0 text.toList

end CommandLine
end TextSearch
