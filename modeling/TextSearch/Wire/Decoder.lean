import TextSearch.Timestamp.Text
import TextSearch.Wire.DecodeError

/-!
# Decoders

A decoder takes the source of a data value to what it means or to the first error, in the order of
the source.  Decoders of records are made from the descriptions of their fields: a record may be
written with keys, or as the sequence of its fields.

A value may be read straight from a text, from a data value, or from a data value that had to be set
aside until a mark in it was found.  Records that are sequences with too many items, and variants
that are written as records, are treated a little differently in each case.
-/

namespace TextSearch
namespace Wire

open Json (Source)

/-- Where the source of a value comes from. -/
inductive Origin where
  | text
  | value
  /-- The value was set aside before its decoder was known. -/
  | setAside
  deriving DecidableEq, Repr

/-- A way to take sources to their meaning. -/
abbrev Decoder (α : Type) := Origin → Source → Except DecodeError α

/-- The source is not what was expected. -/
def mismatch {α : Type} (source : Source) (expected : String) : Except DecodeError α :=
  match Found.ofSource? source with
  | some found => .error (.invalidType found expected)
  | none => .error .malformed

/-! ## Single values -/

/-- Any value. -/
def anything : Decoder Json := fun _ source =>
  match source.toJson? with
  | some value => .ok value
  | none => .error .malformed

/-- A text. -/
def string : Decoder String
  | _, .string value => .ok value
  | _, source => mismatch source "a string"

/-- A truth value. -/
def bool : Decoder Bool
  | _, .bool value => .ok value
  | _, source => mismatch source "a boolean"

/-- A count. -/
def count : Decoder Nat
  | _, .int value =>
    if 0 ≤ value then .ok value.toNat else .error (.invalidValue (.int value) "usize")
  | _, source => mismatch source "usize"

/-- A moment. -/
def timestamp : Decoder Timestamp
  | _, .string value =>
    match Timestamp.ofText? value with
    | some moment => .ok moment
    | none => .error .badTimestamp
  | _, source => mismatch source "an RFC 3339 formatted date and time string"

/-- A value that may be missing. -/
def optional {α : Type} (decoder : Decoder α) : Decoder (Option α)
  | _, .null => .ok none
  | origin, source => (decoder origin source).map some

/-! ## Sequences and tables -/

/-- The meanings of items, behind those already found, which are held in reverse order. -/
def itemsFrom {α : Type} (decoder : Decoder α) (origin : Origin) (found : List α) :
    List Source → Except DecodeError (List α)
  | [] => .ok found.reverse
  | item :: rest =>
    match decoder origin item with
    | .error error => .error error
    | .ok value => itemsFrom decoder origin (value :: found) rest

/-- A sequence of values of one type. -/
def list {α : Type} (decoder : Decoder α) : Decoder (List α)
  | origin, .array items closed =>
    match itemsFrom decoder origin [] items with
    | .error error => .error error
    | .ok values => if closed then .ok values else .error .malformed
  | _, source => mismatch source "a sequence"

/-- The values of members, put into a table that holds those already found. -/
def membersFrom (found : Table String Json) :
    List (Option String × Source) → Except DecodeError (Table String Json)
  | [] => .ok found
  | (none, _) :: _ => .error .malformed
  | (some key, member) :: rest =>
    match member.toJson? with
    | none => .error .malformed
    | some value => membersFrom (found.insert key value) rest

/-- A table of values of any type. -/
def table : Decoder (Table String Json)
  | _, .object members closed =>
    match membersFrom .empty members with
    | .error error => .error error
    | .ok found => if closed then .ok found else .error .malformed
  | _, source => mismatch source "a map"

/-! ## Variants -/

/-- The variant with the given name. -/
def variant {α : Type} (name : α → String) (all : List α) (text : String) :
    Except DecodeError α :=
  match all.find? fun v => name v == text with
  | some v => .ok v
  | none => .error (.unknownVariant text (all.map name))

/-- Whether the source of a variant's content is that of no content. -/
def isNoContent : Origin → Source → Bool
  | _, .null => true
  | .setAside, .object [] true => true
  | _, _ => false

/-- One of several variants without content, by its name; the name may also be the only key of a
record that holds nothing. -/
def enumeration {α : Type} (name : α → String) (all : List α) : Decoder α
  | _, .string text => variant name all text
  | _, .object [(none, _)] _ => .error .malformed
  | origin, .object [(some key, content)] closed =>
    match variant name all key with
    | .error error => .error error
    | .ok v =>
      if isNoContent origin content then if closed then .ok v else .error .malformed
      else mismatch content "unit"
  | _, .object _ _ => .error (.invalidValue .map "map with a single key")
  | _, source => mismatch source "string or map"

/-! ## Records -/

/-- A field of a record that is put together step by step. -/
structure RecordField (ρ : Type) where
  name : String
  /-- The record has no meaning without the field. -/
  required : Bool
  /-- Put the meaning of a source into the record. -/
  set : Origin → Source → ρ → Except DecodeError ρ

/-- A field with a decoder for its values. -/
def RecordField.of {ρ α : Type} (name : String) (required : Bool) (decoder : Decoder α)
    (put : α → ρ → ρ) : RecordField ρ where
  name := name
  required := required
  set origin source record := (decoder origin source).map fun value => put value record

/-- A field that is put into a record has been decoded. -/
theorem RecordField.exists_of_set {ρ α : Type} {name : String} {required : Bool}
    {decoder : Decoder α} {put : α → ρ → ρ} {origin : Origin} {source : Source}
    {record changed : ρ}
    (h : (RecordField.of name required decoder put).set origin source record = .ok changed) :
    ∃ value, decoder origin source = .ok value ∧ changed = put value record := by
  simp only [RecordField.of] at h
  cases hvalue : decoder origin source with
  | error error =>
    rw [hvalue] at h
    contradiction
  | ok value =>
    rw [hvalue] at h
    exact ⟨value, rfl, (Except.ok.inj h).symm⟩

/-- A number of things in words. -/
def counted (n : Nat) (thing : String) : String :=
  n.repr ++ " " ++ thing ++ (if n = 1 then "" else "s")

namespace Record

variable {ρ : Type}

/-- A record written with keys.  Keys that are not known are passed over. -/
def fromMembers (fields : List (RecordField ρ)) (closed : Bool) (origin : Origin) :
    List String → ρ → List (Option String × Source) → Except DecodeError ρ
  | seen, record, [] =>
    if !closed then .error .malformed
    else
      match fields.find? fun field => field.required && !seen.contains field.name with
      | some field => .error (.missingField field.name)
      | none => .ok record
  | _, _, (none, _) :: _ => .error .malformed
  | seen, record, (some key, source) :: rest =>
    match fields.find? fun field => field.name == key with
    | none => fromMembers fields closed origin seen record rest
    | some field =>
      if seen.contains key then .error (.duplicateField key)
      else
        match field.set origin source record with
        | .error error => .error error
        | .ok record => fromMembers fields closed origin (key :: seen) record rest

/-- There are more items than fields. -/
def tooLong (origin : Origin) (fields items : Nat) : DecodeError :=
  match origin with
  | .text => .trailingCharacters
  | .value => .invalidLength items "fewer elements in array"
  | .setAside => .invalidLength items (counted fields "element" ++ " in sequence")

/-- A record written as the sequence of its fields, of which `done` have been read. -/
def fromItems (expected : String) (closed : Bool) (origin : Origin) (total : Nat) :
    Nat → ρ → List (RecordField ρ) → List Source → Except DecodeError ρ
  | done, record, field :: fields, item :: items =>
    match field.set origin item record with
    | .error error => .error error
    | .ok record => fromItems expected closed origin total (done + 1) record fields items
  | done, record, fields, [] =>
    if !closed then .error .malformed
    else
      match fields.findIdx? RecordField.required with
      | some skipped =>
        .error (.invalidLength (done + skipped) (expected ++ " with " ++ counted total "element"))
      | none => .ok record
  | done, _, [], items => .error (tooLong origin done (done + items.length))

end Record

/-- A record with the given fields, which are put one after the other into a blank record. -/
def record {ρ : Type} (expected : String) (fields : List (RecordField ρ)) (blank : ρ) : Decoder ρ
  | origin, .object members closed => Record.fromMembers fields closed origin [] blank members
  | origin, .array items closed =>
    Record.fromItems expected closed origin fields.length 0 blank fields items
  | _, source => mismatch source expected

end Wire
end TextSearch
