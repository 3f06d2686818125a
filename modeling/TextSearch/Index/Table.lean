/-!
# Ordered tables

A finite map as an association list with strictly ascending keys.  The order is part of the type,
so a table has one form only: two tables with the same look-ups are equal (`Table.ext_find?`), and
listing a table lists it in the order of its keys.

Main statements: `Table.find?_insert`, `Table.find?_erase` and `Table.find?_eq_some_iff` say what
each operation does to a look-up.
-/

namespace TextSearch

/-- A finite map from `κ` to `α`, listed by ascending keys. -/
structure Table (κ α : Type) [Ord κ] where
  entries : List (κ × α)
  ascending : entries.Pairwise fun a b => compare a.1 b.1 = .lt

namespace Table

variable {κ α : Type} [Ord κ]

/-! ## Operations on ascending lists -/

/-- Put a pair in its place; a pair with the same key gives way. -/
def insertEntry (k : κ) (v : α) : List (κ × α) → List (κ × α)
  | [] => [(k, v)]
  | (k', v') :: rest =>
    match compare k k' with
    | .lt => (k, v) :: (k', v') :: rest
    | .eq => (k, v) :: rest
    | .gt => (k', v') :: insertEntry k v rest

/-- The value beside the first key that equals `k`. -/
def findEntry (k : κ) : List (κ × α) → Option α
  | [] => none
  | (k', v') :: rest => if compare k k' = .eq then some v' else findEntry k rest

/-- An entry of the longer list is the new one or was there before. -/
theorem mem_insertEntry {k : κ} {v : α} {entries : List (κ × α)} {e : κ × α}
    (h : e ∈ insertEntry k v entries) : e = (k, v) ∨ e ∈ entries := by
  induction entries with
  | nil => exact .inl (by simpa [insertEntry] using h)
  | cons head rest ih =>
    obtain ⟨k', v'⟩ := head
    rw [insertEntry] at h
    split at h
    · simpa using h
    · rcases List.mem_cons.mp h with h | h
      · exact .inl h
      · exact .inr (List.mem_cons_of_mem _ h)
    · rcases List.mem_cons.mp h with h | h
      · exact .inr (by simp [h])
      · exact (ih h).imp_right (List.mem_cons_of_mem _)

/-- Inserting an entry keeps the keys ascending. -/
theorem ascending_insertEntry [Std.TransOrd κ] (k : κ) (v : α) {entries : List (κ × α)}
    (h : entries.Pairwise fun a b => compare a.1 b.1 = .lt) :
    (insertEntry k v entries).Pairwise fun a b => compare a.1 b.1 = .lt := by
  induction entries with
  | nil => simp [insertEntry]
  | cons head rest ih =>
    obtain ⟨k', v'⟩ := head
    have hhead := (List.pairwise_cons.mp h).1
    have hrest := (List.pairwise_cons.mp h).2
    rw [insertEntry]
    split
    · rename_i hlt
      refine List.pairwise_cons.mpr ⟨fun e he => ?_, h⟩
      rcases List.mem_cons.mp he with rfl | he
      · exact hlt
      · exact Std.TransCmp.lt_trans hlt (hhead e he)
    · rename_i heq
      exact List.pairwise_cons.mpr
        ⟨fun e he => Std.TransCmp.lt_of_eq_of_lt heq (hhead e he), hrest⟩
    · rename_i hgt
      refine List.pairwise_cons.mpr ⟨fun e he => ?_, ih hrest⟩
      rcases mem_insertEntry he with rfl | he
      · exact Std.OrientedCmp.gt_iff_lt.mp hgt
      · exact hhead e he

/-! ## Tables -/

/-- The table without entries. -/
def empty : Table κ α :=
  ⟨[], List.Pairwise.nil⟩

instance : EmptyCollection (Table κ α) :=
  ⟨empty⟩

instance : Inhabited (Table κ α) :=
  ⟨empty⟩

/-- The number of entries. -/
def size (t : Table κ α) : Nat :=
  t.entries.length

/-- There are no entries. -/
def isEmpty (t : Table κ α) : Bool :=
  t.entries.isEmpty

/-- The keys in ascending order. -/
def keys (t : Table κ α) : List κ :=
  t.entries.map (·.1)

/-- The values in the order of their keys. -/
def values (t : Table κ α) : List α :=
  t.entries.map (·.2)

/-- The value of a key, if the table has the key. -/
def find? (t : Table κ α) (k : κ) : Option α :=
  findEntry k t.entries

/-- The table has the key. -/
def contains (t : Table κ α) (k : κ) : Bool :=
  (t.find? k).isSome

/-- Give a key a value, in place of its former value if it has one. -/
def insert [Std.TransOrd κ] (t : Table κ α) (k : κ) (v : α) : Table κ α :=
  ⟨insertEntry k v t.entries, ascending_insertEntry k v t.ascending⟩

/-- Remove a key. -/
def erase (t : Table κ α) (k : κ) : Table κ α :=
  ⟨t.entries.filter fun e => compare k e.1 != .eq, t.ascending.filter _⟩

/-- The table of a list of pairs; of two pairs with one key the later counts. -/
def ofList [Std.TransOrd κ] (pairs : List (κ × α)) : Table κ α :=
  pairs.foldl (fun t e => t.insert e.1 e.2) empty

/-! ## Look-ups -/

@[simp]
theorem find?_empty (k : κ) : (empty : Table κ α).find? k = none :=
  rfl

@[simp]
theorem entries_empty : (empty : Table κ α).entries = [] :=
  rfl

section

variable [Std.LawfulEqOrd κ]

/-- An inserted entry is found under its key, and changes nothing under the others. -/
theorem findEntry_insertEntry [DecidableEq κ] (k : κ) (v : α) (entries : List (κ × α)) (k' : κ) :
    findEntry k' (insertEntry k v entries) = if k' = k then some v else findEntry k' entries := by
  induction entries with
  | nil => simp [insertEntry, findEntry]
  | cons head rest ih =>
    obtain ⟨k₁, v₁⟩ := head
    rw [insertEntry]
    split
    · by_cases h : k' = k <;> simp [findEntry, h]
    · rename_i heq
      have : k = k₁ := Std.LawfulEqOrd.eq_of_compare heq
      subst this
      by_cases h : k' = k <;> simp [findEntry, h]
    · rename_i hgt
      have hne : k ≠ k₁ := by
        rintro rfl
        simp at hgt
      by_cases h : k' = k₁
      · subst h
        have : k' ≠ k := fun h => hne h.symm
        simp [findEntry, this]
      · by_cases h' : k' = k <;> simp_all [findEntry]

/-- Only the key that was given a value changes. -/
theorem find?_insert [Std.TransOrd κ] [DecidableEq κ] (t : Table κ α) (k : κ) (v : α) (k' : κ) :
    (t.insert k v).find? k' = if k' = k then some v else t.find? k' :=
  findEntry_insertEntry k v t.entries k'

/-- Without the entries of a key, nothing is found under it, and the others are found as before. -/
theorem findEntry_filter_ne [DecidableEq κ] (k : κ) (entries : List (κ × α)) (k' : κ) :
    findEntry k' (entries.filter fun e => compare k e.1 != .eq) =
      if k' = k then none else findEntry k' entries := by
  induction entries with
  | nil => simp [findEntry]
  | cons head rest ih =>
    obtain ⟨k₁, v₁⟩ := head
    by_cases h₁ : k = k₁
    · subst h₁
      by_cases h : k' = k <;> simp_all [findEntry]
    · by_cases h : k' = k₁
      · subst h
        have : k' ≠ k := fun h => h₁ h.symm
        simp [findEntry, h₁, this]
      · by_cases h' : k' = k <;> simp_all [findEntry]

/-- Only the key that was removed changes. -/
theorem find?_erase [DecidableEq κ] (t : Table κ α) (k k' : κ) :
    (t.erase k).find? k' = if k' = k then none else t.find? k' :=
  findEntry_filter_ne k t.entries k'

/-- In a list of ascending keys, what is found is what is listed. -/
theorem findEntry_eq_some_iff {k : κ} {v : α} {entries : List (κ × α)}
    (h : entries.Pairwise fun a b => compare a.1 b.1 = .lt) :
    findEntry k entries = some v ↔ (k, v) ∈ entries := by
  induction entries with
  | nil => simp [findEntry]
  | cons head rest ih =>
    obtain ⟨k₁, v₁⟩ := head
    have hhead := (List.pairwise_cons.mp h).1
    have hrest := (List.pairwise_cons.mp h).2
    by_cases hk : k = k₁
    · subst hk
      have hnot : (k, v) ∉ rest := by
        intro hmem
        have := hhead _ hmem
        simp at this
      simp [findEntry, hnot, eq_comm]
    · simp [findEntry, hk, ih hrest]

/-- Looking up finds exactly the listed pairs. -/
theorem find?_eq_some_iff (t : Table κ α) (k : κ) (v : α) :
    t.find? k = some v ↔ (k, v) ∈ t.entries :=
  findEntry_eq_some_iff t.ascending

/-- A table is determined by its look-ups. -/
theorem ext_find? [Std.TransOrd κ] {s t : Table κ α} (h : ∀ k, s.find? k = t.find? k) :
    s = t := by
  have hmem : ∀ e, e ∈ s.entries ↔ e ∈ t.entries := fun e => by
    rw [← find?_eq_some_iff s e.1 e.2, ← find?_eq_some_iff t e.1 e.2, h]
  obtain ⟨xs, hxs⟩ := s
  obtain ⟨ys, hys⟩ := t
  have hne : ∀ a b : κ × α, compare a.1 b.1 = .lt → a ≠ b := by
    rintro a b hlt rfl
    simp at hlt
  have : xs = ys := by
    refine List.Perm.eq_of_pairwise (fun a b _ _ hab hba => ?_) hxs hys ?_
    · exact absurd rfl (hne a a (Std.TransCmp.lt_trans hab hba))
    · exact (List.perm_ext_iff_of_nodup (hxs.imp (hne _ _)) (hys.imp (hne _ _))).mpr hmem
  subst this
  rfl

end

end Table
end TextSearch
