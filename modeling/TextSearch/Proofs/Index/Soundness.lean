import TextSearch.Index.Consistency
import TextSearch.Proofs.Index.History
import TextSearch.Proofs.Index.Tables

/-!
# Sound indexes

An index is consistent if its three tables tell the same story.  Consistency by itself is not
preserved by the steps of a history: removing a document walks through the terms that are stored
with it, and a new document must not meet an old one in its slot.  A sound index knows both.

Main results:

- Theorem `sound_after`: every history leaves a sound index.
- Theorem `Sound.violation?_eq_none`: the walk through a sound index finds no violation.
- Theorem `consistent_after`: every history leaves a consistent index, which passes the check.
-/

namespace TextSearch
namespace Index

/-- The tables of identifiers, of documents and of postings tell the same story. -/
structure Consistent (index : Index) : Prop where
  /-- An identifier leads to a slot if and only if a document with it is live in the slot. -/
  registered : ∀ id slot, index.slotOf? id = some slot ↔
    ∃ entry, index.entryAt? slot = some entry ∧ entry.document.id = id
  allNonempty : index.postings.AllNonempty
  /-- A slot is under a term if and only if the document in it is analysed to the term. -/
  posted : ∀ term slot, slot ∈ index.postings.slots term ↔
    ∃ entry, index.entryAt? slot = some entry ∧ term ∈ entry.document.analyze.terms

/-- A consistent index that stores what documents are analysed to, in slots handed out before. -/
structure Sound (index : Index) : Prop extends Consistent index where
  analyzed : ∀ slot entry, index.entryAt? slot = some entry → entry = entry.document.analyze
  below : ∀ slot entry, index.entryAt? slot = some entry → slot < index.nextSlot

namespace Sound

variable {index : Index}

/-- Postings agree with the terms that are stored with the documents. -/
theorem mem_slots_iff (h : index.Sound) (term : String) (slot : Slot) :
    slot ∈ index.postings.slots term ↔
      ∃ entry, index.entryAt? slot = some entry ∧ term ∈ entry.terms := by
  rw [h.posted]
  refine exists_congr fun entry => and_congr_right fun hentry => ?_
  rw [← h.analyzed slot entry hentry]

/-- The next slot is free. -/
theorem entryAt?_nextSlot (h : index.Sound) : index.entryAt? index.nextSlot = none := by
  cases hentry : index.entryAt? index.nextSlot with
  | none => rfl
  | some entry => exact absurd (h.below _ entry hentry) (Nat.lt_irrefl _)

/-- A live document is found under its identifier. -/
theorem slotOf?_eq_some (h : index.Sound) {slot : Slot} {entry : Entry}
    (hentry : index.entryAt? slot = some entry) : index.slotOf? entry.document.id = some slot :=
  (h.registered _ _).mpr ⟨entry, hentry, rfl⟩

/-- After a removal, the live documents are those with other identifiers. -/
theorem entryAt?_remove_eq_some_iff (h : index.Sound) (id : String) (slot : Slot) (entry : Entry) :
    (index.remove id).1.entryAt? slot = some entry ↔
      index.entryAt? slot = some entry ∧ entry.document.id ≠ id := by
  rw [entryAt?_remove]
  constructor
  · intro hentry
    split at hentry
    · contradiction
    · rename_i hslot
      refine ⟨hentry, ?_⟩
      rintro rfl
      exact hslot (h.slotOf?_eq_some hentry)
  · rintro ⟨hentry, hid⟩
    rw [if_neg, hentry]
    intro hslot
    rcases (h.registered id slot).mp hslot with ⟨entry', hentry', hid'⟩
    rw [hentry] at hentry'
    rw [← Option.some.inj hentry'] at hid'
    exact hid hid'

end Sound

/-! ## The steps of a history -/

theorem sound_empty : empty.Sound where
  registered := by
    intro id slot
    constructor
    · intro h
      contradiction
    · rintro ⟨entry, h, _⟩
      contradiction
  allNonempty := Postings.allNonempty_empty
  posted := by
    intro term slot
    constructor
    · intro h
      exact absurd h (Postings.not_mem_slots_empty term slot)
    · rintro ⟨entry, h, _⟩
      contradiction
  analyzed := by
    intro slot entry h
    contradiction
  below := by
    intro slot entry h
    contradiction

/-- A cleared index is sound, whatever it was before. -/
theorem sound_clear (index : Index) : index.clear.Sound where
  registered := sound_empty.registered
  allNonempty := sound_empty.allNonempty
  posted := sound_empty.posted
  analyzed := sound_empty.analyzed
  below := by
    intro slot entry h
    contradiction

/-- Removing keeps an index sound. -/
theorem sound_remove {index : Index} (h : index.Sound) (id : String) :
    (index.remove id).1.Sound where
  registered := by
    intro id' slot
    rw [slotOf?_remove]
    split
    · rename_i heq
      subst heq
      constructor
      · intro hnone
        contradiction
      · rintro ⟨entry, hentry, hid⟩
        exact absurd hid ((h.entryAt?_remove_eq_some_iff id' slot entry).mp hentry).2
    · rename_i hne
      rw [h.registered]
      refine exists_congr fun entry => ?_
      rw [h.entryAt?_remove_eq_some_iff]
      constructor
      · rintro ⟨hentry, rfl⟩
        exact ⟨⟨hentry, hne⟩, rfl⟩
      · rintro ⟨⟨hentry, _⟩, hid⟩
        exact ⟨hentry, hid⟩
  allNonempty := allNonempty_remove h.allNonempty id
  posted := by
    intro term slot
    rw [mem_slots_remove, h.posted]
    constructor
    · rintro ⟨⟨entry, hentry, hterm⟩, hslot⟩
      refine ⟨entry, (h.entryAt?_remove_eq_some_iff id slot entry).mpr ⟨hentry, ?_⟩, hterm⟩
      rintro rfl
      rw [← h.analyzed slot entry hentry] at hterm
      exact hslot ⟨h.slotOf?_eq_some hentry, entry, hentry, hterm⟩
    · rintro ⟨entry, hentry, hterm⟩
      rcases (h.entryAt?_remove_eq_some_iff id slot entry).mp hentry with ⟨hentry, hid⟩
      refine ⟨⟨entry, hentry, hterm⟩, ?_⟩
      rintro ⟨hslot, _⟩
      rcases (h.registered id slot).mp hslot with ⟨entry', hentry', hid'⟩
      rw [hentry] at hentry'
      rw [← Option.some.inj hentry'] at hid'
      exact hid hid'
  analyzed := by
    intro slot entry hentry
    exact h.analyzed slot entry ((h.entryAt?_remove_eq_some_iff id slot entry).mp hentry).1
  below := by
    intro slot entry hentry
    rw [nextSlot_remove]
    exact h.below slot entry ((h.entryAt?_remove_eq_some_iff id slot entry).mp hentry).1

/-- After an insertion, the live documents are the new one in the new slot, and those with other
identifiers. -/
theorem Sound.entryAt?_insert_eq_some_iff {index : Index} (h : index.Sound) (document : Document)
    (slot : Slot) (entry : Entry) :
    (index.insert document.analyze).entryAt? slot = some entry ↔
      (slot = index.nextSlot ∧ entry = document.analyze) ∨
        (index.entryAt? slot = some entry ∧ entry.document.id ≠ document.id) := by
  rw [entryAt?_insert]
  split
  · rename_i heq
    subst heq
    rw [h.entryAt?_nextSlot]
    simp [eq_comm]
  · rename_i hne
    rw [h.entryAt?_remove_eq_some_iff]
    simp [hne]

/-- Inserting a document keeps an index sound, also where it replaces one of the same id. -/
theorem sound_insert {index : Index} (h : index.Sound) (document : Document) :
    (index.insert document.analyze).Sound where
  registered := by
    intro id slot
    rw [slotOf?_insert, Document.document_analyze]
    split
    · rename_i heq
      subst heq
      constructor
      · intro hslot
        refine ⟨document.analyze, ?_, rfl⟩
        rw [h.entryAt?_insert_eq_some_iff]
        exact .inl ⟨(Option.some.inj hslot).symm, rfl⟩
      · rintro ⟨entry, hentry, hid⟩
        rcases (h.entryAt?_insert_eq_some_iff document slot entry).mp hentry with hnew | hold
        · rw [hnew.1]
        · exact absurd hid hold.2
    · rename_i hne
      rw [h.registered]
      refine exists_congr fun entry => ?_
      rw [h.entryAt?_insert_eq_some_iff]
      constructor
      · rintro ⟨hentry, rfl⟩
        exact ⟨.inr ⟨hentry, hne⟩, rfl⟩
      · rintro ⟨⟨_, rfl⟩ | ⟨hentry, _⟩, hid⟩
        · exact absurd hid.symm hne
        · exact ⟨hentry, hid⟩
  allNonempty := allNonempty_insert h.allNonempty _
  posted := by
    intro term slot
    have hremoved := sound_remove h document.id
    rw [mem_slots_insert, Document.document_analyze, hremoved.posted]
    constructor
    · rintro (⟨hterm, hslot⟩ | ⟨entry, hentry, hterm⟩)
      · exact ⟨_, (h.entryAt?_insert_eq_some_iff _ _ _).mpr (.inl ⟨hslot, rfl⟩), hterm⟩
      · rw [h.entryAt?_remove_eq_some_iff] at hentry
        exact ⟨entry, (h.entryAt?_insert_eq_some_iff _ _ _).mpr (.inr hentry), hterm⟩
    · rintro ⟨entry, hentry, hterm⟩
      rcases (h.entryAt?_insert_eq_some_iff _ _ _).mp hentry with ⟨hslot, rfl⟩ | hold
      · exact .inl ⟨hterm, hslot⟩
      · exact .inr ⟨entry, (h.entryAt?_remove_eq_some_iff _ _ _).mpr hold, hterm⟩
  analyzed := by
    intro slot entry hentry
    rcases (h.entryAt?_insert_eq_some_iff _ _ _).mp hentry with ⟨_, rfl⟩ | hold
    · rfl
    · exact h.analyzed slot entry hold.1
  below := by
    intro slot entry hentry
    rw [nextSlot_insert]
    rcases (h.entryAt?_insert_eq_some_iff _ _ _).mp hentry with ⟨hslot, _⟩ | hold
    · rw [hslot]
      exact Nat.lt_succ_self _
    · exact Nat.lt_succ_of_lt (h.below slot entry hold.1)

/-- Every history leaves a sound index. -/
theorem sound_after (changes : List Change) : (after changes).Sound := by
  apply after_induction (motive := Sound)
  · intro index document _ h
    exact sound_insert h document
  · intro index id h
    exact sound_remove h id
  · intro index _
    exact sound_clear index
  · exact sound_empty

/-! ## The check finds nothing -/

namespace Sound

variable {index : Index}

/-- There are as many identifiers as documents, because each leads to the other. -/
theorem size_slots (h : index.Sound) : index.slots.size = index.size := by
  have hids : (index.slots.entries.map (·.2)).Nodup := by
    rw [List.Nodup, List.pairwise_map]
    refine index.slots.ascending.imp_of_mem ?_
    intro a b ha hb hlt heq
    obtain ⟨entry, hentry, hid⟩ :=
      (h.registered a.1 a.2).mp ((Table.find?_eq_some_iff index.slots a.1 a.2).mpr ha)
    obtain ⟨entry', hentry', hid'⟩ :=
      (h.registered b.1 b.2).mp ((Table.find?_eq_some_iff index.slots b.1 b.2).mpr hb)
    rw [← heq, hentry] at hentry'
    rw [← Option.some.inj hentry', hid] at hid'
    rw [hid'] at hlt
    simp at hlt
  have hslots : (index.entries.entries.map (·.1)).Nodup := index.entries.nodup_keys
  have hmem : ∀ slot, slot ∈ index.slots.entries.map (·.2) ↔
      slot ∈ index.entries.entries.map (·.1) := by
    intro slot
    constructor
    · intro hslot
      rcases List.mem_map.mp hslot with ⟨⟨id, _⟩, hid, rfl⟩
      obtain ⟨entry, hentry, _⟩ :=
        (h.registered id _).mp ((Table.find?_eq_some_iff index.slots id _).mpr hid)
      exact List.mem_map.mpr ⟨_, (Table.find?_eq_some_iff index.entries _ entry).mp hentry, rfl⟩
    · intro hslot
      rcases List.mem_map.mp hslot with ⟨⟨_, entry⟩, hentry, rfl⟩
      have hid := h.slotOf?_eq_some ((Table.find?_eq_some_iff index.entries _ entry).mpr hentry)
      exact List.mem_map.mpr ⟨_, (Table.find?_eq_some_iff index.slots _ _).mp hid, rfl⟩
  have hperm := (List.perm_ext_iff_of_nodup hids hslots).mpr hmem
  have hlength := hperm.length_eq
  rw [List.length_map, List.length_map] at hlength
  exact hlength

/-- The check of the ids finds nothing in a sound index. -/
theorem registryViolation?_eq_none (h : index.Sound) : index.registryViolation? = none := by
  rw [registryViolation?, List.findSome?_eq_none_iff]
  rintro ⟨id, slot⟩ hmem
  obtain ⟨entry, hentry, hid⟩ :=
    (h.registered id slot).mp ((Table.find?_eq_some_iff index.slots id slot).mpr hmem)
  simp [hentry, hid]

/-- The check of a posted slot finds nothing in a sound index. -/
theorem slotViolation?_eq_none (h : index.Sound) {term : String} {slot : Slot}
    (hslot : slot ∈ index.postings.slots term) : index.slotViolation? term slot = none := by
  rcases (h.mem_slots_iff term slot).mp hslot with ⟨entry, hentry, hterm⟩
  simp [slotViolation?, hentry, hterm]

/-- The check of the posting lists finds nothing in a sound index. -/
theorem postingsViolation?_eq_none (h : index.Sound) : index.postingsViolation? = none := by
  rw [postingsViolation?, List.findSome?_eq_none_iff]
  rintro ⟨term, slots⟩ hmem
  have hfind : index.postings.find? term = some slots :=
    (Table.find?_eq_some_iff index.postings.lists term slots).mpr hmem
  simp only [h.allNonempty term slots hfind, Bool.false_eq_true, if_false]
  rw [List.findSome?_eq_none_iff]
  intro slot hslot
  exact h.slotViolation?_eq_none (Postings.mem_slots_iff.mpr ⟨slots, hfind, hslot⟩)

/-- The check for missing postings finds nothing in a sound index. -/
theorem missingViolation?_eq_none (h : index.Sound) : index.missingViolation? = none := by
  rw [missingViolation?, List.findSome?_eq_none_iff]
  rintro ⟨slot, entry⟩ hmem
  have hentry : index.entryAt? slot = some entry :=
    (Table.find?_eq_some_iff index.entries slot entry).mpr hmem
  rw [List.findSome?_eq_none_iff]
  intro term hterm
  rw [if_pos ((h.mem_slots_iff term slot).mpr ⟨entry, hentry, hterm⟩)]

/-- The walk through a sound index finds no violation. -/
theorem violation?_eq_none (h : index.Sound) : index.violation? = none := by
  have hsize : index.sizeViolation? = none := by
    rw [sizeViolation?, if_pos h.size_slots]
  rw [violation?, hsize, h.registryViolation?_eq_none, h.postingsViolation?_eq_none,
    h.missingViolation?_eq_none]
  rfl

end Sound

/-- Every history leaves a consistent index, which passes the check. -/
theorem consistent_after (changes : List Change) :
    (after changes).Consistent ∧ (after changes).verify = .ok () := by
  have hsound := sound_after changes
  refine ⟨hsound.toConsistent, ?_⟩
  rw [verify, hsound.violation?_eq_none]

end Index
end TextSearch
