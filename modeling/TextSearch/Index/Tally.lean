import TextSearch.Index.Table

/-!
# Counting occurrences

`Table.tally` counts how often each element occurs in a list.  The list is sorted first, so equal
elements are neighbours and the table is built from its end.

Main statement: `Table.find?_tally`.
-/

namespace TextSearch
namespace Table

variable {κ : Type} [Ord κ] [DecidableEq κ]

/-- Count one more occurrence of a key that is not greater than those counted so far. -/
def countFirst (k : κ) : List (κ × Nat) → List (κ × Nat)
  | [] => [(k, 1)]
  | (k', n) :: rest => if k = k' then (k', n + 1) :: rest else (k, 1) :: (k', n) :: rest

/-- The elements of a list in ascending order, with repetitions. -/
def sorted (keys : List κ) : List κ :=
  keys.mergeSort fun a b => (compare a b).isLE

omit [DecidableEq κ] in
/-- The sorted keys do not descend. -/
theorem pairwise_sorted [Std.TransOrd κ] (keys : List κ) :
    (sorted keys).Pairwise fun a b => (compare a b).isLE = true := by
  refine List.pairwise_mergeSort (fun a b c => Std.TransCmp.isLE_trans) (fun a b => ?_) keys
  have hswap : compare b a = (compare a b).swap := Std.OrientedCmp.eq_swap
  rw [hswap]
  cases compare a b <;> rfl

omit [DecidableEq κ] in
theorem perm_sorted (keys : List κ) : (sorted keys).Perm keys :=
  List.mergeSort_perm _ _

omit [Ord κ] in
/-- Counting a key adds no other. -/
theorem mem_countFirst {k : κ} {entries : List (κ × Nat)} {e : κ × Nat}
    (h : e ∈ countFirst k entries) : e.1 = k ∨ ∃ e' ∈ entries, e'.1 = e.1 := by
  cases entries with
  | nil => exact .inl (by simp_all [countFirst])
  | cons head rest =>
    rw [countFirst] at h
    split at h
    · rcases List.mem_cons.mp h with rfl | h
      · exact .inr ⟨head, by simp, rfl⟩
      · exact .inr ⟨e, by simp [h], rfl⟩
    · rcases List.mem_cons.mp h with rfl | h
      · exact .inl rfl
      · exact .inr ⟨e, h, rfl⟩

/-- Counting a key in front of keys that are not smaller keeps them ascending. -/
theorem ascending_countFirst [Std.TransOrd κ] [Std.LawfulEqOrd κ] {k : κ}
    {entries : List (κ × Nat)} (h : entries.Pairwise fun a b => compare a.1 b.1 = .lt)
    (hle : ∀ e ∈ entries, (compare k e.1).isLE = true) :
    (countFirst k entries).Pairwise fun a b => compare a.1 b.1 = .lt := by
  cases entries with
  | nil => simp [countFirst]
  | cons head rest =>
    have hhead := (List.pairwise_cons.mp h).1
    rw [countFirst]
    split
    · exact List.pairwise_cons.mpr ⟨hhead, (List.pairwise_cons.mp h).2⟩
    · rename_i hne
      have hlt : compare k head.1 = .lt := by
        have := hle head (by simp)
        cases hc : compare k head.1 with
        | lt => rfl
        | eq => exact absurd (Std.LawfulEqOrd.eq_of_compare hc) hne
        | gt => simp [hc] at this
      refine List.pairwise_cons.mpr ⟨fun e he => ?_, h⟩
      rcases List.mem_cons.mp he with rfl | he
      · exact hlt
      · exact Std.TransCmp.lt_trans hlt (hhead e he)

omit [Ord κ] in
/-- Only listed keys are counted. -/
theorem mem_foldr_countFirst {keys : List κ} {e : κ × Nat}
    (h : e ∈ keys.foldr countFirst []) : e.1 ∈ keys := by
  induction keys generalizing e with
  | nil => simp at h
  | cons k rest ih =>
    rcases mem_countFirst h with h | ⟨e', he', h⟩
    · simp [h]
    · exact List.mem_cons_of_mem _ (h ▸ ih he')

/-- The tally of a sorted list ascends. -/
theorem ascending_foldr_countFirst [Std.TransOrd κ] [Std.LawfulEqOrd κ] {keys : List κ}
    (h : keys.Pairwise fun a b => (compare a b).isLE = true) :
    (keys.foldr countFirst []).Pairwise fun a b => compare a.1 b.1 = .lt := by
  induction keys with
  | nil => simp
  | cons k rest ih =>
    have hhead := (List.pairwise_cons.mp h).1
    exact ascending_countFirst (ih (List.pairwise_cons.mp h).2)
      fun e he => hhead _ (mem_foldr_countFirst he)

/-- How often each element of a list occurs in it. -/
def tally [Std.TransOrd κ] [Std.LawfulEqOrd κ] (keys : List κ) : Table κ Nat :=
  ⟨(sorted keys).foldr countFirst [], ascending_foldr_countFirst (pairwise_sorted keys)⟩

variable [Std.TransOrd κ] [Std.LawfulEqOrd κ]

omit [DecidableEq κ] [Std.TransOrd κ] [Std.LawfulEqOrd κ] in
/-- Nothing is found under a key below all others. -/
theorem findEntry_eq_none_of_lt {k : κ} {entries : List (κ × Nat)}
    (h : ∀ e ∈ entries, compare k e.1 = .lt) : findEntry k entries = none := by
  induction entries with
  | nil => rfl
  | cons head rest ih =>
    have hlt := h head (by simp)
    rw [findEntry, if_neg (by simp [hlt]), ih fun e he => h e (List.mem_cons_of_mem _ he)]

/-- Counting a key raises its own count by one and no other. -/
theorem findEntry_countFirst {k : κ} {entries : List (κ × Nat)}
    (h : entries.Pairwise fun a b => compare a.1 b.1 = .lt)
    (hle : ∀ e ∈ entries, (compare k e.1).isLE = true) (k' : κ) :
    findEntry k' (countFirst k entries) =
      if k' = k then some ((findEntry k entries).getD 0 + 1) else findEntry k' entries := by
  have hasc := ascending_countFirst h hle
  cases entries with
  | nil => simp [countFirst, findEntry]
  | cons head rest =>
    obtain ⟨k₁, n⟩ := head
    by_cases hk : k = k₁
    · subst hk
      by_cases h' : k' = k <;> simp [countFirst, findEntry, h']
    · rw [countFirst, if_neg hk] at hasc ⊢
      have hnone := findEntry_eq_none_of_lt (k := k) (List.pairwise_cons.mp hasc).1
      by_cases h' : k' = k
      · simp_all [findEntry]
      · simp [findEntry, h']

/-- The number of occurrences of each element. -/
theorem find?_tally (keys : List κ) (k : κ) :
    (tally keys).find? k = if k ∈ keys then some (keys.count k) else none := by
  have hmain : ∀ sortedKeys : List κ,
      (sortedKeys.Pairwise fun a b => (compare a b).isLE = true) →
      findEntry k (sortedKeys.foldr countFirst []) =
        if k ∈ sortedKeys then some (sortedKeys.count k) else none := by
    intro sortedKeys h
    induction sortedKeys with
    | nil => rfl
    | cons k₁ rest ih =>
      have hhead := (List.pairwise_cons.mp h).1
      have hrest := (List.pairwise_cons.mp h).2
      rw [List.foldr_cons, findEntry_countFirst (ascending_foldr_countFirst hrest)
        fun e he => hhead _ (mem_foldr_countFirst he)]
      by_cases hk : k = k₁
      · subst hk
        rw [ih hrest]
        by_cases hmem : k ∈ rest
        · simp [hmem]
        · simp [hmem, List.count_eq_zero_of_not_mem hmem]
      · have hk' : k₁ ≠ k := fun h => hk h.symm
        simp [ih hrest, hk, hk']
  have hperm := perm_sorted keys
  rw [show (tally keys).find? k = findEntry k ((sorted keys).foldr countFirst []) from rfl,
    hmain _ (pairwise_sorted keys), hperm.count_eq]
  simp [hperm.mem_iff]

end Table
end TextSearch
