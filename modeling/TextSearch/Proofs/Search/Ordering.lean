import TextSearch.Search.Outcome

/-!
# The order of results

Every key compares results as a total order would compare its values, so each key, in each
direction, can be sorted by.  Sorting is stable: what was in some order before is still in it
wherever the key does not tell two results apart, and this is so in both directions, because it is
the comparison that is turned round for the descending direction, not the sorted list.

Main results:

- Theorem `pairwise_mergeSort_of_pairwise`: sorting keeps the order of what the comparison does not
  tell apart.
- Theorem `filter_mergeSort`: what is left out does not disturb the order of the rest.
- Theorems `Hit.compareBy_eq_lt_iff` and `Hit.compareBy_eq_eq_iff`: what each key compares, and when
  it does not tell two results apart.
- Theorems `Hit.comesBefore_trans` and `Hit.comesBefore_total`: each key is a total preorder on
  results.
- Theorem `Hit.ahead_or_tied_of_comesBefore`: what a stable sort by the key says of two results.
-/

namespace TextSearch

/-! ## Stable sorting -/

section Stable

variable {α : Type} {le : α → α → Bool}
  (trans : ∀ a b c : α, le a b = true → le b c = true → le a c = true)
  (total : ∀ a b : α, (le a b || le b a) = true)

include trans total

/-- What the comparison does not tell apart from an element comes out of sorting as it was. -/
theorem filter_tied_mergeSort (l : List α) (a : α) :
    (l.mergeSort le).filter (fun b => le a b && le b a) =
      l.filter fun b => le a b && le b a := by
  have htied : (l.filter fun b => le a b && le b a).Pairwise fun b c => le b c = true := by
    rw [List.pairwise_iff_forall_sublist]
    intro b c hbc
    have hb := List.mem_filter.mp (hbc.subset (by simp : b ∈ [b, c]))
    have hc := List.mem_filter.mp (hbc.subset (by simp : c ∈ [b, c]))
    simp only [Bool.and_eq_true] at hb hc
    exact trans b a c hb.2.2 hc.2.1
  have hsublist := (List.sublist_mergeSort trans total htied List.filter_sublist).filter
    fun b => le a b && le b a
  simp only [List.filter_filter, Bool.and_self] at hsublist
  have hlength := ((List.mergeSort_perm l le).filter fun b => le a b && le b a).length_eq
  exact (hsublist.eq_of_length hlength.symm).symm

/-- A sorted list is in the order of the comparison, and what this does not tell apart is in the
order in which it was before. -/
theorem pairwise_mergeSort_of_pairwise {r : α → α → Prop} {l : List α} (h : l.Pairwise r) :
    (l.mergeSort le).Pairwise fun a b => le a b = true ∧ (le b a = true → r a b) := by
  have hsorted := List.pairwise_mergeSort trans total l
  rw [List.pairwise_iff_forall_sublist] at hsorted h ⊢
  intro a b hab
  refine ⟨hsorted hab, ?_⟩
  intro hba
  have hself : le a a = true := by
    have hor := total a a
    simpa using hor
  have htied := hab.filter fun c => le a c && le c a
  rw [filter_tied_mergeSort trans total l a] at htied
  simp only [List.filter_cons, hself, hsorted hab, hba, Bool.and_self, if_true,
    List.filter_nil] at htied
  exact h (htied.trans List.filter_sublist)

/-- A new first element comes out of sorting behind those that have to be ahead of it, and before
all others. -/
theorem mergeSort_cons_eq_filter (a : α) (l : List α) :
    (a :: l).mergeSort le =
      (l.mergeSort le).filter (fun b => !le a b) ++ a :: (l.mergeSort le).filter (le a) := by
  obtain ⟨before, behind, hsorted, hrest, hbefore⟩ := List.mergeSort_cons trans total a l
  have hbehind : ∀ b ∈ behind, le a b = true := by
    have hpairwise := List.pairwise_mergeSort trans total (a :: l)
    rw [hsorted, List.pairwise_append, List.pairwise_cons] at hpairwise
    exact hpairwise.2.1.1
  have hfirst : (before ++ behind).filter (fun b => !le a b) = before := by
    rw [List.filter_append, List.filter_eq_self.mpr hbefore, List.filter_eq_nil_iff.mpr,
      List.append_nil]
    intro b hb
    simp [hbehind b hb]
  have hlast : (before ++ behind).filter (le a) = behind := by
    rw [List.filter_append, List.filter_eq_self.mpr hbehind, List.filter_eq_nil_iff.mpr,
      List.nil_append]
    intro b hb
    simpa using hbefore b hb
  rw [hsorted, hrest, hfirst, hlast]

/-- Keeping what passes a test after sorting is sorting what passes it. -/
theorem filter_mergeSort (p : α → Bool) (l : List α) :
    (l.mergeSort le).filter p = (l.filter p).mergeSort le := by
  induction l with
  | nil => simp
  | cons a l ih =>
    by_cases hp : p a = true
    · -- The list is cut by a test too, and two tests can be made in either order.
      have hcomm (q : α → Bool) : ((l.mergeSort le).filter q).filter p =
          ((l.filter p).mergeSort le).filter q := by
        rw [← ih, List.filter_filter, List.filter_filter]
        simp only [Bool.and_comm]
      rw [List.filter_cons_of_pos hp, mergeSort_cons_eq_filter trans total,
        mergeSort_cons_eq_filter trans total, List.filter_append, List.filter_cons_of_pos hp,
        hcomm, hcomm]
    · obtain ⟨before, behind, hsorted, hrest, -⟩ := List.mergeSort_cons trans total a l
      rw [List.filter_cons_of_neg hp, ← ih, hsorted, hrest, List.filter_append,
        List.filter_cons_of_neg hp, List.filter_append]

end Stable

/-! ## What the keys compare -/

/-- Scores are in the total order of doubles: those with a sign are below those without, and of two
with a sign the one with the greater bits is below. -/
theorem scoreRank_lt_iff {a b : Float} :
    scoreRank a < scoreRank b ↔
      Nat.pow 2 63 ≤ a.toBits.toNat ∧
          (b.toBits.toNat < Nat.pow 2 63 ∨ b.toBits.toNat < a.toBits.toNat) ∨
        a.toBits.toNat < b.toBits.toNat ∧ b.toBits.toNat < Nat.pow 2 63 := by
  simp only [scoreRank]
  generalize Nat.pow 2 63 = sign
  split <;> split <;> omega

/-- Only scores with the same bits have the same place. -/
theorem scoreRank_inj {a b : Float} : scoreRank a = scoreRank b ↔ a.toBits = b.toBits := by
  rw [← UInt64.toNat_inj]
  simp only [scoreRank]
  generalize Nat.pow 2 63 = sign
  split <;> split <;> omega

/-- A title is before another if its lower-case form is, or if the forms are the same and the title
itself is before the other. -/
theorem compareTitles_eq_lt_iff {a b : String} :
    compareTitles a b = .lt ↔
      Text.lowercase a < Text.lowercase b ∨ Text.lowercase a = Text.lowercase b ∧ a < b := by
  rw [compareTitles, Ordering.then_eq_lt, Std.compare_eq_iff_eq]
  exact or_congr compareOfLessAndEq_eq_lt (and_congr_right fun _ => compareOfLessAndEq_eq_lt)

/-- Only titles that are the same are not told apart. -/
theorem compareTitles_eq_eq_iff {a b : String} : compareTitles a b = .eq ↔ a = b := by
  rw [compareTitles, Ordering.then_eq_eq, Std.compare_eq_iff_eq, Std.compare_eq_iff_eq]
  exact and_iff_right_of_imp (congrArg Text.lowercase)

namespace Timestamp

/-- The first moment is earlier: on an earlier day, or on the same day in an earlier second, or in
the same second by nanoseconds. -/
def IsBefore (a b : Timestamp) : Prop :=
  a.day < b.day ∨ a.day = b.day ∧ (a.second < b.second ∨ a.second = b.second ∧ a.nano < b.nano)

/-- A moment compares as less exactly when it is before the other. -/
theorem compare_eq_lt_iff {a b : Timestamp} : compare a b = .lt ↔ a.IsBefore b := by
  have hcompare : compare a b = (compare a.day b.day).then
      ((compare a.second b.second).then (compare a.nano b.nano)) := rfl
  simp only [hcompare, Ordering.then_eq_lt, Int.compare_eq_lt, Nat.compare_eq_lt,
    Std.compare_eq_iff_eq, IsBefore]

/-- Only a moment and itself are not told apart. -/
theorem compare_eq_eq_iff {a b : Timestamp} : compare a b = .eq ↔ a = b := by
  have hcompare : compare a b = (compare a.day b.day).then
      ((compare a.second b.second).then (compare a.nano b.nano)) := rfl
  rw [hcompare, Ordering.then_eq_eq, Ordering.then_eq_eq, Std.compare_eq_iff_eq,
    Std.compare_eq_iff_eq, Std.compare_eq_iff_eq]
  constructor
  · rintro ⟨hday, hsecond, hnano⟩
    cases a
    cases b
    simp_all
  · rintro rfl
    exact ⟨rfl, rfl, rfl⟩

end Timestamp

namespace Hit

/-- A result is before another, in ascending direction, by the total order of scores, by the
lower-cased title and then by the title as it is, or by one of the two timestamps. -/
theorem compareBy_eq_lt_iff (key : SortKey) (a b : Hit) :
    a.compareBy key b = .lt ↔
      match key with
      | .score => scoreRank a.score < scoreRank b.score
      | .title =>
        Text.lowercase a.document.title < Text.lowercase b.document.title ∨
          Text.lowercase a.document.title = Text.lowercase b.document.title ∧
            a.document.title < b.document.title
      | .created => a.document.createdAt.IsBefore b.document.createdAt
      | .updated => a.document.updatedAt.IsBefore b.document.updatedAt := by
  cases key with
  | score => exact Int.compare_eq_lt
  | title => exact compareTitles_eq_lt_iff
  | created => exact Timestamp.compare_eq_lt_iff
  | updated => exact Timestamp.compare_eq_lt_iff

/-- A key does not tell two results apart if they have the same score to the bit, the same title, or
the same timestamp, and only then. -/
theorem compareBy_eq_eq_iff (key : SortKey) (a b : Hit) :
    a.compareBy key b = .eq ↔
      match key with
      | .score => a.score.toBits = b.score.toBits
      | .title => a.document.title = b.document.title
      | .created => a.document.createdAt = b.document.createdAt
      | .updated => a.document.updatedAt = b.document.updatedAt := by
  cases key with
  | score => exact Std.compare_eq_iff_eq.trans scoreRank_inj
  | title => exact compareTitles_eq_eq_iff
  | created => exact Timestamp.compare_eq_eq_iff
  | updated => exact Timestamp.compare_eq_eq_iff

end Hit

/-! ## Comparing results -/

instance : Std.TransOrd Timestamp :=
  inferInstanceAs (Std.TransCmp (compareLex (compareOn Timestamp.day)
    (compareLex (compareOn Timestamp.second) (compareOn Timestamp.nano))))

namespace Hit

/-- Every key compares results as a total order compares its values. -/
instance (key : SortKey) : Std.TransCmp (Hit.compareBy key) :=
  match key with
  | .score => inferInstanceAs (Std.TransCmp (compareOn fun hit : Hit => scoreRank hit.score))
  | .title =>
    inferInstanceAs (Std.TransCmp (compareLex
      (compareOn fun hit : Hit => Text.lowercase hit.document.title)
      (compareOn fun hit : Hit => hit.document.title)))
  | .created => inferInstanceAs (Std.TransCmp (compareOn fun hit : Hit => hit.document.createdAt))
  | .updated => inferInstanceAs (Std.TransCmp (compareOn fun hit : Hit => hit.document.updatedAt))

end Hit

/-- How things compare in a direction that compare so in the ascending one. -/
def Direction.turn (order : Ordering) : Direction → Ordering
  | .ascending => order
  | .descending => order.swap

namespace Direction

@[simp]
theorem turn_eq (direction : Direction) : direction.turn .eq = .eq := by
  cases direction <;> rfl

/-- Turning commutes with swapping the two sides. -/
theorem turn_swap (direction : Direction) (order : Ordering) :
    direction.turn order.swap = (direction.turn order).swap := by
  cases direction <;> rfl

end Direction

namespace Hit

variable (key : SortKey) (direction : Direction)

/-- The descending direction turns the comparison round. -/
theorem comesBefore_eq_isLE (a b : Hit) :
    comesBefore key direction a b = (direction.turn (a.compareBy key b)).isLE := by
  cases direction with
  | ascending => rfl
  | descending =>
    have hswap : b.compareBy key a = (a.compareBy key b).swap := Std.OrientedCmp.eq_swap
    rw [comesBefore, hswap, Direction.turn]

/-- Coming before is transitive. -/
theorem comesBefore_trans (a b c : Hit) (hab : comesBefore key direction a b = true)
    (hbc : comesBefore key direction b c = true) : comesBefore key direction a c = true := by
  cases direction with
  | ascending => exact Std.TransCmp.isLE_trans hab hbc
  | descending => exact Std.TransCmp.isLE_trans hbc hab

/-- Of two hits, one comes before the other. -/
theorem comesBefore_total (a b : Hit) :
    (comesBefore key direction a b || comesBefore key direction b a) = true := by
  have hswap : b.compareBy key a = (a.compareBy key b).swap := Std.OrientedCmp.eq_swap
  rw [comesBefore_eq_isLE, comesBefore_eq_isLE, hswap]
  cases a.compareBy key b <;> cases direction <;> rfl

variable {key direction}

/-- What a stable sort says of two results: the key tells which one is ahead, or it does not tell
them apart, and then they are as they were before. -/
theorem ahead_or_tied_of_comesBefore {a b : Hit} {p : Prop}
    (h : comesBefore key direction a b = true) (hback : comesBefore key direction b a = true → p) :
    direction.turn (a.compareBy key b) = .lt ∨ a.compareBy key b = .eq ∧ p := by
  have hswap : b.compareBy key a = (a.compareBy key b).swap := Std.OrientedCmp.eq_swap
  rw [comesBefore_eq_isLE] at h
  rw [comesBefore_eq_isLE, hswap] at hback
  cases horder : a.compareBy key b with
  | eq =>
    right
    refine ⟨rfl, hback ?_⟩
    rw [horder]
    cases direction <;> rfl
  | lt =>
    left
    rw [horder] at h
    cases direction with
    | ascending => rfl
    | descending => contradiction
  | gt =>
    left
    rw [horder] at h
    cases direction with
    | ascending => contradiction
    | descending => rfl

end Hit
end TextSearch
