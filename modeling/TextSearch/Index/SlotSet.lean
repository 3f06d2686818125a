/-!
# Sets of slots

A slot is the number under which a document is held; slots are handed out in ascending order, one
per insertion.  A set of slots is the ascending list of its members, so its order is the order in
which the documents were added.

Main statements: `SlotSet.mem_insert`, `SlotSet.mem_erase`, `SlotSet.mem_union`,
`SlotSet.mem_inter` and `SlotSet.mem_diff` describe every operation by membership, and
`SlotSet.ext` says that membership determines a set.
-/

namespace TextSearch

/-- The number of an insertion. -/
abbrev Slot := Nat

/-- A finite set of slots, listed in ascending order. -/
structure SlotSet where
  slots : List Slot
  ascending : slots.Pairwise (· < ·)
  deriving DecidableEq

namespace SlotSet

instance : Membership Slot SlotSet :=
  ⟨fun s n => n ∈ s.slots⟩

theorem mem_def {s : SlotSet} {n : Slot} : n ∈ s ↔ n ∈ s.slots :=
  Iff.rfl

instance (s : SlotSet) (n : Slot) : Decidable (n ∈ s) :=
  inferInstanceAs (Decidable (n ∈ s.slots))

/-! ## Insertion into an ascending list -/

/-- Put a slot in its place, unless it is there already. -/
def insertSlot (n : Slot) : List Slot → List Slot
  | [] => [n]
  | m :: rest =>
    if n < m then n :: m :: rest
    else if n = m then m :: rest
    else m :: insertSlot n rest

/-- Inserting a slot into a list adds that slot. -/
theorem mem_insertSlot {n m : Slot} {slots : List Slot} :
    m ∈ insertSlot n slots ↔ m = n ∨ m ∈ slots := by
  induction slots with
  | nil => simp [insertSlot]
  | cons k rest ih =>
    rw [insertSlot]
    split
    · simp
    · split
      · simp_all
      · simp only [List.mem_cons, ih]
        constructor <;> rintro (h | h | h) <;> simp [h]

/-- Inserting a slot into an ascending list keeps it ascending. -/
theorem ascending_insertSlot (n : Slot) {slots : List Slot} (h : slots.Pairwise (· < ·)) :
    (insertSlot n slots).Pairwise (· < ·) := by
  induction slots with
  | nil => simp [insertSlot]
  | cons k rest ih =>
    have hhead := (List.pairwise_cons.mp h).1
    have hrest := (List.pairwise_cons.mp h).2
    rw [insertSlot]
    split
    · refine List.pairwise_cons.mpr ⟨fun m hm => ?_, h⟩
      rcases List.mem_cons.mp hm with rfl | hm
      · assumption
      · exact Nat.lt_trans ‹n < k› (hhead m hm)
    · split
      · exact h
      · refine List.pairwise_cons.mpr ⟨fun m hm => ?_, ih hrest⟩
        rcases mem_insertSlot.mp hm with rfl | hm
        · exact Nat.lt_of_le_of_ne (Nat.not_lt.mp ‹¬ m < k›) (Ne.symm ‹¬ m = k›)
        · exact hhead m hm

/-! ## Operations -/

/-- The set without members. -/
def empty : SlotSet :=
  ⟨[], List.Pairwise.nil⟩

instance : EmptyCollection SlotSet :=
  ⟨empty⟩

instance : Inhabited SlotSet :=
  ⟨empty⟩

/-- The set of one slot. -/
def singleton (n : Slot) : SlotSet :=
  ⟨[n], List.pairwise_singleton _ _⟩

/-- There are no members. -/
def isEmpty (s : SlotSet) : Bool :=
  s.slots.isEmpty

/-- The number of members. -/
def size (s : SlotSet) : Nat :=
  s.slots.length

/-- Add one slot. -/
def insert (s : SlotSet) (n : Slot) : SlotSet :=
  ⟨insertSlot n s.slots, ascending_insertSlot n s.ascending⟩

/-- Keep the slots that satisfy a test. -/
def filter (keep : Slot → Bool) (s : SlotSet) : SlotSet :=
  ⟨s.slots.filter keep, s.ascending.filter _⟩

/-- Remove one slot. -/
def erase (s : SlotSet) (n : Slot) : SlotSet :=
  s.filter (· != n)

/-- The slots of either set. -/
def union (s t : SlotSet) : SlotSet :=
  t.slots.foldl insert s

/-- The slots of both sets. -/
def inter (s t : SlotSet) : SlotSet :=
  s.filter (· ∈ t)

/-- The slots of the first set that the second does not have. -/
def diff (s t : SlotSet) : SlotSet :=
  s.filter (· ∉ t)

/-! ## Membership -/

@[simp]
theorem not_mem_empty (n : Slot) : ¬ n ∈ empty := by
  simp [mem_def, empty]

@[simp]
theorem mem_singleton {n m : Slot} : m ∈ singleton n ↔ m = n := by
  simp [mem_def, singleton]

@[simp]
theorem mem_insert {s : SlotSet} {n m : Slot} : m ∈ s.insert n ↔ m = n ∨ m ∈ s :=
  mem_insertSlot

@[simp]
theorem mem_filter {keep : Slot → Bool} {s : SlotSet} {n : Slot} :
    n ∈ s.filter keep ↔ n ∈ s ∧ keep n = true := by
  simp [mem_def, filter]

@[simp]
theorem mem_erase {s : SlotSet} {n m : Slot} : m ∈ s.erase n ↔ m ∈ s ∧ m ≠ n := by
  simp [erase]

/-- Inserting a list of slots adds them all. -/
theorem mem_foldl_insert {slots : List Slot} {s : SlotSet} {n : Slot} :
    n ∈ slots.foldl insert s ↔ n ∈ s ∨ n ∈ slots := by
  induction slots generalizing s with
  | nil => simp
  | cons m rest ih =>
    rw [List.foldl_cons, ih, mem_insert, List.mem_cons, or_comm (a := n = m), or_assoc]

@[simp]
theorem mem_union {s t : SlotSet} {n : Slot} : n ∈ s.union t ↔ n ∈ s ∨ n ∈ t :=
  mem_foldl_insert

@[simp]
theorem mem_inter {s t : SlotSet} {n : Slot} : n ∈ s.inter t ↔ n ∈ s ∧ n ∈ t := by
  simp [inter]

@[simp]
theorem mem_diff {s t : SlotSet} {n : Slot} : n ∈ s.diff t ↔ n ∈ s ∧ ¬ n ∈ t := by
  simp [diff]

/-- A slot set is empty when it has no members. -/
theorem isEmpty_iff {s : SlotSet} : s.isEmpty = true ↔ ∀ n, ¬ n ∈ s := by
  simp [isEmpty, mem_def, List.isEmpty_iff, List.eq_nil_iff_forall_not_mem]

/-- A set is determined by its members. -/
theorem ext {s t : SlotSet} (h : ∀ n, n ∈ s ↔ n ∈ t) : s = t := by
  obtain ⟨xs, hxs⟩ := s
  obtain ⟨ys, hys⟩ := t
  have : xs = ys := by
    refine List.Perm.eq_of_pairwise (fun a b _ _ hab hba => ?_) hxs hys ?_
    · exact absurd (Nat.lt_trans hab hba) (Nat.lt_irrefl a)
    · refine (List.perm_ext_iff_of_nodup ?_ ?_).mpr h
      · exact hxs.imp (fun hlt => Nat.ne_of_lt hlt)
      · exact hys.imp (fun hlt => Nat.ne_of_lt hlt)
  subst this
  rfl

end SlotSet
end TextSearch
