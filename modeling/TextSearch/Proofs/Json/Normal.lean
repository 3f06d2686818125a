import TextSearch.Json.Source
import TextSearch.Proofs.Index.Tables

/-!
# Values in normal form

Objects are mappings, so their members have one order: a value is in normal form when all its
objects list their members by ascending keys, each key once.  This is the form in which values are
read, and values in normal form are read as themselves.

Main results:

- Theorem `Source.toJson?_ofJson`: the source of a value in normal form has this value.
-/

namespace TextSearch
namespace Json

/-- All objects in a value list their members by ascending keys, each key once. -/
inductive IsNormal : Json → Prop
  | null : IsNormal null
  | bool (value : Bool) : IsNormal (bool value)
  | int (value : Int) : IsNormal (int value)
  | float (value : Float) : IsNormal (float value)
  | string (value : String) : IsNormal (string value)
  | array {items : List Json} : (∀ item ∈ items, IsNormal item) → IsNormal (array items)
  | object {members : List (String × Json)} :
    (members.Pairwise fun a b => compare a.1 b.1 = .lt) →
    (∀ member ∈ members, IsNormal member.2) → IsNormal (object members)

/-- Members already in ascending order of their names are the record itself. -/
theorem record_of_ascending {members : List (String × Json)}
    (h : members.Pairwise fun a b => compare a.1 b.1 = .lt) : record members = object members := by
  have hentries := Table.ofList_entries ⟨members, h⟩
  rw [record, hentries]

namespace Source

/-! ## The sources of values -/

/-- Writing items down one after another is a map, behind what was made before. -/
theorem itemsFrom_eq (made : List Source) (items : List Json) :
    itemsFrom made items = made.reverse ++ items.map ofJson := by
  induction items generalizing made with
  | nil => simp [itemsFrom]
  | cons item rest ih => simp [itemsFrom, ih]

/-- The source of a member. -/
def ofMember (member : String × Json) : Option String × Source :=
  (some member.1, ofJson member.2)

/-- Writing members down one after another is a map, behind what was made before. -/
theorem membersFrom_eq (made : List (Option String × Source)) (members : List (String × Json)) :
    membersFrom made members = made.reverse ++ members.map ofMember := by
  induction members generalizing made with
  | nil => simp [membersFrom]
  | cons member rest ih => simp [membersFrom, ih, ofMember]

/-- An array is written as the closed array of its items. -/
theorem ofJson_array (items : List Json) :
    ofJson (.array items) = array (items.map ofJson) true := by
  rw [ofJson, itemsFrom_eq]
  rfl

/-- An object is written as the closed object of its members, each under its name. -/
theorem ofJson_object (members : List (String × Json)) :
    ofJson (.object members) = object (members.map ofMember) true := by
  rw [ofJson, membersFrom_eq]
  rfl

/-! ## The values of these sources -/

/-- Items that read back one by one read back together. -/
theorem itemValues?_map {items : List Json} (found : List Json)
    (h : ∀ item ∈ items, (ofJson item).toJson? = some item) :
    itemValues? found (items.map ofJson) = some (found.reverse ++ items) := by
  induction items generalizing found with
  | nil => simp [itemValues?]
  | cons item rest ih =>
    rw [List.forall_mem_cons] at h
    simp [itemValues?, h.1, ih (item :: found) h.2]

/-- Members that read back one by one read back together, repeated names included. -/
theorem memberValues?_map {members : List (String × Json)} (found : List (String × Json))
    (h : ∀ member ∈ members, (ofJson member.2).toJson? = some member.2) :
    memberValues? found (members.map ofMember) = some (found.reverse ++ members) := by
  induction members generalizing found with
  | nil => simp [memberValues?]
  | cons member rest ih =>
    rw [List.forall_mem_cons] at h
    simp [memberValues?, ofMember, h.1, ih (member :: found) h.2]

/-- A value in normal form is the value of its source. -/
theorem toJson?_ofJson {value : Json} (h : value.IsNormal) :
    (ofJson value).toJson? = some value := by
  induction h with
  | null | bool | int | float | string => rfl
  | array _ ih => simp [ofJson_array, toJson?, itemValues?_map [] ih]
  | object hascending _ ih =>
    simp [ofJson_object, toJson?, memberValues?_map [] ih, record_of_ascending hascending]

end Source
end Json
end TextSearch
