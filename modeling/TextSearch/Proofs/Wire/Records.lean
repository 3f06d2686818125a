import Mathlib.Data.List.Nodup
import TextSearch.Proofs.Json.Normal
import TextSearch.Proofs.Timestamp.Rereading
import TextSearch.Wire.Decoder

/-!
# Reading data values

What decoders make of data values, in contrast to the sources of texts: all keys are known texts and
all containers are closed.

Main results:

- Theorem `read_list_map`: a sequence of encoded values is read back if each of them is.
- Theorem `read_record`: a record with distinct keys is put together member by member.
- Theorem `foldlM_filter_of_pure`: members that change nothing may be left out.
- Theorem `foldlM_eq_error_of_head`: the first fault is the one that is told.
-/

namespace TextSearch

namespace Wire

open Json (Source)

/-- What a data value means. -/
def read {α : Type} (decoder : Decoder α) (value : Json) : Except DecodeError α :=
  decoder .value (.ofJson value)

/-- What is wrong with a data value, if it has no meaning. -/
def fault? {α : Type} (decoder : Decoder α) (value : Json) : Option DecodeError :=
  match read decoder value with
  | .ok _ => none
  | .error error => some error

/-! ## Single values and sequences -/

/-- Any value in normal form is read as itself. -/
theorem read_anything {value : Json} (h : value.IsNormal) : read anything value = .ok value := by
  rw [read, anything, Source.toJson?_ofJson h]

@[simp]
theorem read_string (text : String) : read string (.string text) = .ok text :=
  rfl

@[simp]
theorem read_bool (value : Bool) : read bool (.bool value) = .ok value :=
  rfl

@[simp]
theorem read_count (n : Nat) : read count (.ofNat n) = .ok n := by
  have hnonneg : (0 : Int) ≤ n := Int.natCast_nonneg n
  rw [read, Json.ofNat, Source.ofJson, count, if_pos hnonneg, Int.toNat_natCast]

/-- A moment is read back from its text. -/
@[simp]
theorem read_timestamp (moment : Timestamp) :
    read timestamp (.string moment.text) = .ok moment := by
  rw [read, Source.ofJson, timestamp, Timestamp.ofText?_text]

section

variable {α : Type} {decoder : Decoder α} {encode : α → Json}

/-- Items that are read back one by one are read back together, behind those found before. -/
theorem itemsFrom_map (found values : List α)
    (h : ∀ value ∈ values, read decoder (encode value) = .ok value) :
    itemsFrom decoder .value found ((values.map encode).map Source.ofJson) =
      .ok (found.reverse ++ values) := by
  induction values generalizing found with
  | nil => simp [itemsFrom]
  | cons value rest ih =>
    rw [List.forall_mem_cons] at h
    have hvalue : decoder .value (.ofJson (encode value)) = .ok value := h.1
    simp only [List.map_cons, itemsFrom, hvalue, ih (value :: found) h.2, List.reverse_cons,
      List.append_assoc, List.singleton_append]

/-- A sequence of encoded values is read back if each of them is. -/
theorem read_list_map (values : List α)
    (h : ∀ value ∈ values, read decoder (encode value) = .ok value) :
    read (list decoder) (.array (values.map encode)) = .ok values := by
  have hitems := itemsFrom_map [] values h
  rw [read, Source.ofJson_array, list, hitems]
  rfl

end

@[simp]
theorem read_strings (texts : List String) :
    read (list string) (Json.strings texts) = .ok texts :=
  read_list_map texts fun text _ => read_string text

/-! ## Records -/

namespace Record

variable {ρ : Type}

/-- Put the member of a key into a record; a key that is not known changes nothing. -/
def put (fields : List (RecordField ρ)) (record : ρ) (member : String × Json) :
    Except DecodeError ρ :=
  match fields.find? fun field => field.name == member.1 with
  | none => .ok record
  | some field => field.set .value (.ofJson member.2) record

/-- A member with a key that is not known changes nothing. -/
theorem put_of_not_mem {fields : List (RecordField ρ)} {member : String × Json}
    (h : member.1 ∉ fields.map RecordField.name) (record : ρ) :
    put fields record member = .ok record := by
  have hnone : (fields.find? fun field => field.name == member.1) = none := by
    rw [List.find?_eq_none]
    intro field hfield hname
    exact h (List.mem_map.mpr ⟨field, hfield, beq_iff_eq.mp hname⟩)
  rw [put, hnone]

section

variable {α : Type} {fields : List (RecordField ρ)} {key name : String} {required : Bool}
  {decoder : Decoder α} {assign : α → ρ → ρ}

/-- A member with the key of a field is decoded and put into the record. -/
theorem put_of_find?
    (h : (fields.find? fun field => field.name == key) = some (.of name required decoder assign))
    (record : ρ) (value : Json) :
    put fields record (key, value) =
      (read decoder value).map fun meaning => assign meaning record := by
  simp only [put, h]
  rfl

/-- A member that can be decoded is put into the record, and the others follow. -/
theorem foldlM_put_cons
    (h : (fields.find? fun field => field.name == key) = some (.of name required decoder assign))
    {value : Json} {meaning : α} (hvalue : read decoder value = .ok meaning) (record : ρ)
    (rest : List (String × Json)) :
    ((key, value) :: rest).foldlM (put fields) record =
      rest.foldlM (put fields) (assign meaning record) := by
  rw [List.foldlM_cons, put_of_find? h, hvalue]
  rfl

/-- A member is not put into a record where it has a fault, and only there. -/
theorem put_of_fault?
    (h : (fields.find? fun field => field.name == key) = some (.of name required decoder assign))
    (record : ρ) (value : Json) :
    (∀ error, fault? decoder value = some error →
      put fields record (key, value) = .error error) ∧
    (fault? decoder value = none → ∃ changed, put fields record (key, value) = .ok changed) := by
  rw [put_of_find? h, fault?]
  cases read decoder value with
  | error error => simp [Except.map]
  | ok meaning => simp [Except.map]

end

/-- Members with distinct keys are put into a record one after the other.  Once they are all there,
nothing that is required is missing. -/
theorem fromMembers_eq_foldlM {fields : List (RecordField ρ)} {seen : List String}
    {members : List (String × Json)} (record : ρ) (hnodup : (members.map Prod.fst).Nodup)
    (hnew : ∀ key ∈ members.map Prod.fst, key ∉ seen)
    (hrequired : ∀ field ∈ fields, field.required = true →
      field.name ∈ seen ∨ field.name ∈ members.map Prod.fst) :
    fromMembers fields true .value seen record (members.map Source.ofMember) =
      members.foldlM (put fields) record := by
  induction members generalizing seen record with
  | nil =>
    have hnone : (fields.find? fun field => field.required && !seen.contains field.name) =
        none := by
      simpa [List.find?_eq_none] using hrequired
    simp only [List.map_nil, fromMembers, hnone]
    rfl
  | cons member rest ih =>
    rcases member with ⟨key, value⟩
    rw [List.map_cons, List.nodup_cons] at hnodup
    rw [List.map_cons, List.forall_mem_cons] at hnew
    simp only [List.map_cons, List.mem_cons] at hrequired
    rw [List.map_cons, Source.ofMember, fromMembers, List.foldlM_cons, put]
    cases hfind : fields.find? fun field => field.name == key with
    | none =>
      refine ih record hnodup.2 hnew.2 ?_
      intro field hfield hrequires
      have hne : field.name ≠ key := by
        simpa using List.find?_eq_none.mp hfind field hfield
      simpa [hne] using hrequired field hfield hrequires
    | some field =>
      have hseen : ¬ seen.contains key = true := by simpa using hnew.1
      simp only [if_neg hseen]
      cases field.set .value (.ofJson value) record with
      | error error => rfl
      | ok changed =>
        refine ih changed hnodup.2 ?_ ?_
        · intro other hother
          rw [List.mem_cons, not_or]
          refine ⟨?_, hnew.2 other hother⟩
          rintro rfl
          exact hnodup.1 hother
        · intro field hfield hrequires
          rcases hrequired field hfield hrequires with h | h | h
          · exact .inl (List.mem_cons_of_mem _ h)
          · exact .inl (h ▸ List.mem_cons_self)
          · exact .inr h

/-- A record with distinct keys, among which are all that are required, is put together member by
member. -/
theorem read_record (expected : String) {fields : List (RecordField ρ)} (blank : ρ)
    {members : List (String × Json)} (hnodup : (members.map Prod.fst).Nodup)
    (hrequired : ∀ field ∈ fields, field.required = true →
      field.name ∈ members.map Prod.fst) :
    read (record expected fields blank) (.object members) =
      members.foldlM (put fields) blank := by
  rw [read, Source.ofJson_object, record]
  exact fromMembers_eq_foldlM blank hnodup (by simp)
    fun field hfield hrequires => .inr (hrequired field hfield hrequires)

end Record

/-! ## Loops that may fail -/

section

variable {ρ α ε : Type} {step : ρ → α → Except ε ρ}

/-- Steps that change nothing may be left out. -/
theorem foldlM_filter_of_pure {keep : α → Bool}
    (h : ∀ state x, keep x = false → step state x = .ok state) (state : ρ) (xs : List α) :
    (xs.filter keep).foldlM step state = xs.foldlM step state := by
  induction xs generalizing state with
  | nil => rfl
  | cons x rest ih =>
    cases hkeep : keep x with
    | true =>
      rw [List.filter_cons_of_pos hkeep, List.foldlM_cons, List.foldlM_cons]
      exact bind_congr ih
    | false =>
      rw [List.filter_cons_of_neg (by simp [hkeep]), List.foldlM_cons, h state x hkeep, ih]
      rfl

/-- Where the faults of the steps do not depend on the state, the first one is told. -/
theorem foldlM_eq_error_of_head {fault? : α → Option ε}
    (hfault : ∀ state x error, fault? x = some error → step state x = .error error)
    (hfine : ∀ state x, fault? x = none → ∃ state', step state x = .ok state')
    (state : ρ) {xs : List α} {error : ε} (h : (xs.filterMap fault?).head? = some error) :
    xs.foldlM step state = .error error := by
  induction xs generalizing state with
  | nil => contradiction
  | cons x rest ih =>
    rw [List.foldlM_cons]
    cases hx : fault? x with
    | none =>
      rw [List.filterMap_cons_none hx] at h
      obtain ⟨state', hstep⟩ := hfine state x hx
      rw [hstep]
      exact ih state' h
    | some first =>
      rw [List.filterMap_cons_some hx, List.head?_cons] at h
      rw [hfault state x first hx, ← Option.some.inj h]
      rfl

end

end Wire
end TextSearch
