/-!
# Arguments of a command

An argument is an option, the value of the option before it, or one of the things that the command
asks for in a fixed order.  An option is written `--name`, and some have a letter, `-n`; its value
is the next argument, or follows in the same one.  What begins with a hyphen is never taken for the
value of an option or for anything else, unless it stands behind a lone `--`.

Arguments are read from left to right, and the first one that cannot be read decides.
-/

namespace TextSearch
namespace CommandLine

/-- What an option does to the settings of a command. -/
inductive Effect (σ : Type) where
  /-- An option without a value, which may be given once. -/
  | flag (set : σ → σ)
  /-- An option with a value; the value may have no meaning. -/
  | value (repeatable : Bool) (set : String → σ → Option σ)

/-- An option. -/
structure Switch (σ : Type) where
  name : String
  letter : Option Char
  effect : Effect σ

/-- The arguments that a command understands. -/
structure Usage (σ : Type) where
  switches : List (Switch σ)
  /-- What the command asks for, in order. -/
  places : List (String → σ → Option σ)

/-- What became of arguments. -/
inductive Understood (σ : Type) where
  | settings (settings : σ)
  /-- An explanation was asked for. -/
  | help
  /-- The arguments cannot be read. -/
  | misuse

/-- What one argument is. -/
inductive Argument (σ : Type) where
  | help
  | option (switch : Switch σ) (attached : Option String)
  | plain
  | unknown

/-- The argument cannot be a value, because it looks like an option. -/
def looksLikeOption (arg : String) : Bool :=
  match arg.toList with
  | '-' :: _ :: _ => true
  | _ => false

/-- The parts of an argument before and behind the first equals sign. -/
def cutAtEquals (cs : List Char) : List Char × Option (List Char) :=
  match cs.dropWhile (· != '=') with
  | [] => (cs, none)
  | _ :: value => (cs.takeWhile (· != '='), some value)

/-- The value that follows the letter of an option in the same argument. -/
def attachedToLetter : List Char → Option String
  | [] => none
  | '=' :: value => some (.ofList value)
  | value => some (.ofList value)

/-- Find out what an argument is. -/
def classify {σ : Type} (switches : List (Switch σ)) (arg : String) : Argument σ :=
  match arg.toList with
  | '-' :: '-' :: cs =>
    let (name, attached) := cutAtEquals cs
    match switches.find? fun switch => switch.name.toList == name with
    | some switch => .option switch (attached.map .ofList)
    | none => if name = "help".toList ∧ attached.isNone then .help else .unknown
  | '-' :: c :: cs =>
    match switches.find? fun switch => switch.letter == some c with
    | some switch => .option switch (attachedToLetter cs)
    | none => if c = 'h' then .help else .unknown
  | _ => .plain

/-- Take what the command asks for. -/
def understandPlaces {σ : Type} :
    List (String → σ → Option σ) → σ → List String → Understood σ
  | [], settings, [] => .settings settings
  | place :: places, settings, arg :: args =>
    match place arg settings with
    | some settings => understandPlaces places settings args
    | none => .misuse
  | _, _, _ => .misuse

/-- Read arguments; `given` are the options that may not be given again. -/
def understandFrom {σ : Type} (switches : List (Switch σ)) (given : List String)
    (places : List (String → σ → Option σ)) (settings : σ) :
    List String → Understood σ
  | [] => if places.isEmpty then .settings settings else .misuse
  | "--" :: args => understandPlaces places settings args
  | arg :: args =>
    match classify switches arg with
    | .help => .help
    | .unknown => .misuse
    | .plain =>
      match places with
      | [] => .misuse
      | place :: places =>
        match place arg settings with
        | some settings => understandFrom switches given places settings args
        | none => .misuse
    | .option switch attached =>
      match switch.effect with
      | .flag set =>
        if attached.isSome || given.contains switch.name then .misuse
        else understandFrom switches (switch.name :: given) places (set settings) args
      | .value repeatable set =>
        if !repeatable && given.contains switch.name then .misuse
        else
          match attached, args with
          | some value, args =>
            match set value settings with
            | some settings => understandFrom switches (switch.name :: given) places settings args
            | none => .misuse
          | none, [] => .misuse
          | none, value :: args =>
            if looksLikeOption value then .misuse
            else
              match set value settings with
              | some settings =>
                understandFrom switches (switch.name :: given) places settings args
              | none => .misuse

/-- Read all arguments of a command. -/
def Usage.understand {σ : Type} (usage : Usage σ) (settings : σ) (args : List String) :
    Understood σ :=
  understandFrom usage.switches [] usage.places settings args

/-! ## Values -/

/-- A count of sixty-four bits: decimal digits, perhaps behind a plus sign. -/
def count? (text : String) : Option Nat :=
  let ds :=
    match text.toList with
    | '+' :: ds => ds
    | ds => ds
  if ds.isEmpty || !ds.all Char.isDigit then none
  else
    let n := ds.foldl (fun n c => min (n * 10 + (c.toNat - '0'.toNat)) (Nat.pow 2 64)) 0
    if n < Nat.pow 2 64 then some n else none

/-- The name of a file, which is not empty. -/
def path? (text : String) : Option String :=
  if text.isEmpty then none else some text

end CommandLine
end TextSearch
