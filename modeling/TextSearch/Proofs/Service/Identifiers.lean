import TextSearch.Service.Request

/-!
# Identifiers of requests

A request is written as a record, by its keys or as the sequence of its fields.  Its identifier is
what stands under its own key, or at the first place; no other field puts one in, and a record with
the key twice is refused.

Main results:

- Theorem `Wire.Record.ne_of_seen`: no key of a field comes twice in a record that is read.
- Theorem `Wire.Record.exists_set_of_mem`: what a record shows of one field was put in where the key
  of the field stands.
- Theorem `Request.id_of_ofText`: the identifier of the request that a line holds.
-/

namespace TextSearch

open Json (Source)

/-! ## What a record shows of one of its fields -/

namespace Wire

variable {ρ β : Type}

/-- What the view shows of a record is changed by the field with the given name only. -/
def OnlySetBy (name : String) (view : ρ → β) (fields : List (RecordField ρ)) : Prop :=
  ∀ field ∈ fields, field.name ≠ name → ∀ origin source record changed,
    field.set origin source record = .ok changed → view changed = view record

namespace Record

variable {name : String} {view : ρ → β} {fields : List (RecordField ρ)} {closed : Bool}
  {origin : Origin} {seen : List String} {record found : ρ}
  {members : List (Option String × Source)}

/-- The key of a field that has been seen does not come again in a record that is read. -/
theorem ne_of_seen (hname : name ∈ fields.map RecordField.name) (hseen : name ∈ seen)
    (h : fromMembers fields closed origin seen record members = .ok found) :
    ∀ member ∈ members, member.1 ≠ some name := by
  fun_induction fromMembers fields closed origin seen record members with
  | case1 => contradiction
  | case2 => contradiction
  | case3 => simp
  | case4 => contradiction
  | case5 seen record key source rest hunknown ih =>
    rw [List.forall_mem_cons]
    refine ⟨?_, ih hseen h⟩
    intro hkey
    obtain ⟨field, hfield, hfieldName⟩ := List.mem_map.mp hname
    have hne := List.find?_eq_none.mp hunknown field hfield
    rw [hfieldName, Option.some.inj hkey] at hne
    simp at hne
  | case6 => contradiction
  | case7 => contradiction
  | case8 seen record key source rest field hfound hnew changed hset ih =>
    rw [List.forall_mem_cons]
    refine ⟨?_, ih (List.mem_cons_of_mem _ hseen) h⟩
    intro hkey
    rw [Option.some.inj hkey] at hnew
    exact hnew (List.contains_iff_mem.mpr hseen)

/-- A record without a member for a field keeps what it showed of it. -/
theorem view_of_forall_ne (hview : OnlySetBy name view fields)
    (hmembers : ∀ member ∈ members, member.1 ≠ some name)
    (h : fromMembers fields closed origin seen record members = .ok found) :
    view found = view record := by
  fun_induction fromMembers fields closed origin seen record members with
  | case1 => contradiction
  | case2 => contradiction
  | case3 => rw [← Except.ok.inj h]
  | case4 => contradiction
  | case5 seen record key source rest hunknown ih =>
    exact ih (List.forall_mem_cons.mp hmembers).2 h
  | case6 => contradiction
  | case7 => contradiction
  | case8 seen record key source rest field hfound hnew changed hset ih =>
    have hkey : field.name = key := by simpa using List.find?_some hfound
    have hne : field.name ≠ name := by
      intro heq
      exact (List.forall_mem_cons.mp hmembers).1 (by rw [← hkey, heq])
    rw [ih (List.forall_mem_cons.mp hmembers).2 h]
    exact hview field (List.mem_of_find?_eq_some hfound) hne origin source record changed hset

/-- What a record shows of a field with a member was put in by the field from the source of this
member, and stayed as it was. -/
theorem exists_set_of_mem (hview : OnlySetBy name view fields) {field : RecordField ρ}
    (hfield : (fields.find? fun field => field.name == name) = some field) {source : Source}
    (hmem : (some name, source) ∈ members)
    (h : fromMembers fields closed origin seen record members = .ok found) :
    ∃ before changed, field.set origin source before = .ok changed ∧ view found = view changed := by
  fun_induction fromMembers fields closed origin seen record members with
  | case1 => contradiction
  | case2 => contradiction
  | case3 => simp at hmem
  | case4 => contradiction
  | case5 seen record key other rest hunknown ih =>
    rcases List.mem_cons.mp hmem with heq | hmem
    · rw [Option.some.inj (Prod.mk.inj heq).1, hunknown] at hfield
      contradiction
    · exact ih hmem h
  | case6 => contradiction
  | case7 => contradiction
  | case8 seen record key other rest known hfound hnew changed hset ih =>
    rcases List.mem_cons.mp hmem with heq | hmem
    · -- The member stands here, so none of the rest has its key.
      obtain ⟨hkey, rfl⟩ := Prod.mk.inj heq
      obtain rfl := Option.some.inj hkey
      obtain rfl := Option.some.inj (hfound.symm.trans hfield)
      have hname : known.name = name := by simpa using List.find?_some hfound
      have hknown : name ∈ fields.map RecordField.name :=
        List.mem_map.mpr ⟨known, List.mem_of_find?_eq_some hfound, hname⟩
      exact ⟨record, changed, hset,
        view_of_forall_ne hview (ne_of_seen hknown List.mem_cons_self h) h⟩
    · exact ih hmem h

/-- The fields that follow one in a sequence keep what the record shows of it. -/
theorem view_of_fromItems {expected : String} {total done : Nat} {items : List Source}
    (hview : OnlySetBy name view fields) (hfields : name ∉ fields.map RecordField.name)
    (h : fromItems expected closed origin total done record fields items = .ok found) :
    view found = view record := by
  fun_induction fromItems expected closed origin total done record fields items with
  | case1 => contradiction
  | case2 done record field fields item items changed hset ih =>
    rw [List.map_cons, List.mem_cons, not_or] at hfields
    have hrest : OnlySetBy name view fields := fun other hother =>
      hview other (List.mem_cons_of_mem _ hother)
    rw [ih hrest hfields.2 h]
    exact hview field List.mem_cons_self (Ne.symm hfields.1) origin item record changed hset
  | case3 => contradiction
  | case4 => contradiction
  | case5 => rw [← Except.ok.inj h]
  | case6 => contradiction

end Record
end Wire

/-! ## The identifier of a request -/

namespace Request

/-- No field but the identifier puts an identifier into a request. -/
theorem onlySetBy_id : Wire.OnlySetBy "id" Request.id wireFields := by
  intro field hfield hname origin source request changed h
  simp only [wireFields, List.mem_cons, List.not_mem_nil, or_false] at hfield
  rcases hfield with rfl | rfl | rfl
  · contradiction
  · obtain ⟨kind, -, rfl⟩ := Wire.RecordField.exists_of_set h
    rfl
  · obtain ⟨payload, -, rfl⟩ := Wire.RecordField.exists_of_set h
    rfl

/-- A source that is put in as an identifier has a value, and this is the identifier. -/
theorem toJson?_of_set_id {origin : Wire.Origin} {source : Source} {request changed : Request}
    (h : (Wire.RecordField.of "id" false Wire.anything
      fun id (request : Request) => { request with id }).set origin source request = .ok changed) :
    source.toJson? = some changed.id := by
  obtain ⟨id, hid, rfl⟩ := Wire.RecordField.exists_of_set h
  rw [Wire.anything] at hid
  cases hvalue : source.toJson? with
  | none =>
    rw [hvalue] at hid
    contradiction
  | some value =>
    rw [hvalue] at hid
    rw [Except.ok.inj hid]

/-- A request that is read stands in its source by its keys, with the identifier under its own key
and null if this is missing, or as a sequence that begins with the identifier. -/
theorem id_of_decoder {origin : Wire.Origin} {source : Source} {request : Request}
    (h : decoder origin source = .ok request) :
    (∃ members closed, source = .object members closed ∧
        (∀ value, (some "id", value) ∈ members → value.toJson? = some request.id) ∧
        ((∀ member ∈ members, member.1 ≠ some "id") → request.id = .null)) ∨
      ∃ first rest closed, source = .array (first :: rest) closed ∧
        first.toJson? = some request.id := by
  cases source with
  | object members closed =>
    refine .inl ⟨members, closed, rfl, ?_, ?_⟩
    · intro value hmem
      obtain ⟨before, changed, hset, hid⟩ :=
        Wire.Record.exists_set_of_mem onlySetBy_id rfl hmem h
      rw [hid]
      exact toJson?_of_set_id hset
    · intro hmembers
      exact Wire.Record.view_of_forall_ne onlySetBy_id hmembers h
  | array items closed =>
    cases items with
    | nil =>
      rw [decoder, Wire.record] at h
      cases closed <;> contradiction
    | cons first rest =>
      refine .inr ⟨first, rest, closed, rfl, ?_⟩
      rw [decoder, Wire.record, wireFields, Wire.Record.fromItems] at h
      split at h
      · contradiction
      · next changed hset =>
        have hrest : Wire.OnlySetBy "id" Request.id wireFields.tail := fun field hfield =>
          onlySetBy_id field (List.mem_of_mem_tail hfield)
        rw [Wire.Record.view_of_fromItems hrest (by decide) h]
        exact toJson?_of_set_id hset
  | null => contradiction
  | bool value => contradiction
  | int value => contradiction
  | float value => contradiction
  | string value => contradiction
  | unusable => contradiction
  | broken => contradiction

/-- The identifier of the request that a line holds is what stands under its key, or null if nothing
does; in a sequence, it is what stands at the first place. -/
theorem id_of_ofText {line : String} {request : Request} (h : ofText line = .ok request) :
    (∃ members closed, (Source.ofText line).1 = .object members closed ∧
        (∀ value, (some "id", value) ∈ members → value.toJson? = some request.id) ∧
        ((∀ member ∈ members, member.1 ≠ some "id") → request.id = .null)) ∨
      ∃ first rest closed, (Source.ofText line).1 = .array (first :: rest) closed ∧
        first.toJson? = some request.id := by
  apply id_of_decoder
  rw [ofText] at h
  generalize Source.ofText line = read at h ⊢
  rcases read with ⟨source, ended⟩
  dsimp only at h ⊢
  cases hdecoded : decoder .text source with
  | error error =>
    rw [hdecoded] at h
    dsimp only at h
    split at h <;> contradiction
  | ok found =>
    rw [hdecoded] at h
    cases ended with
    | false => contradiction
    | true =>
      rw [← Except.ok.inj h]

end Request
end TextSearch
