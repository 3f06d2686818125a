import TextSearch.Proofs.Text.Capitals
import TextSearch.Proofs.Text.Separation

/-!
# Lower case and folding

A text in lower case and a text folded character by character are not always the same: a capital
sigma that ends a word has a form of its own, and `İ` has a form of two characters, of which folding
keeps the first one.  Apart from these two characters they agree; and where no word ends in a
capital sigma, whatever letters and digits stand in the lower-case text stand in the folded one too.

Main results:

- Theorem `foldChar_foldChar`: folding leaves folded characters as they are.
- Theorem `foldChars_of_mem_terms`: folding leaves the terms of a text as they are.
- Theorem `lowerFrom_eq_flatMap`: where no word ends in a capital sigma, every character is
  lower-cased by itself.
- Theorem `infix_foldChars`: what stands in the lower-case text without a combining dot stands in
  the folded one.
-/

namespace TextSearch
namespace Text

/-! ## Folded characters -/

/-- The shifts leave the numbers `first`, `first + step`, …, `last` alone: each of them ends before
these numbers, begins behind them, or steps over them. -/
def leavesAlone (first last step : Nat) : List Shift → Bool
  | [] => true
  | shift :: rest =>
    Nat.blt last shift.first ||
      ((Nat.blt shift.last first ||
          (Nat.beq shift.step 2 && (Nat.beq step 2 || Nat.beq first last) &&
            Nat.beq ((first + shift.first) % 2) 1)) &&
        leavesAlone first last step rest)

/-- Where no shift of the table meets the steps of a range, they stay where they are. -/
theorem shifted_of_leavesAlone {first last step n : Nat} {shifts : List Shift}
    (h : leavesAlone first last step shifts = true) (hfirst : first ≤ n) (hlast : n ≤ last)
    (hstep : (n - first) % step = 0) : shifted shifts n = n := by
  induction shifts with
  | nil => rfl
  | cons shift rest ih =>
    rw [shifted]
    by_cases hbehind : n < shift.first
    · rw [if_pos hbehind]
    · simp only [leavesAlone, Bool.or_eq_true, Bool.and_eq_true, Nat.blt_eq, Nat.beq_eq] at h
      rw [if_neg hbehind]
      rcases h with hall | ⟨hthis, hrest⟩
      · omega
      · by_cases hwithin : n ≤ shift.last
        · -- The shift is met, so it must be one that steps over the number.
          obtain ⟨⟨htwo, hsteps⟩, hodd⟩ := hthis.resolve_left (by omega)
          have hover : (n - shift.first) % shift.step ≠ 0 := by
            rcases hsteps with rfl | rfl
            · rw [htwo]
              omega
            · rw [htwo]
              omega
          rw [if_pos hwithin, if_neg hover]
        · rw [if_neg hwithin]
          exact ih hrest

/-- A code point that has been moved stays where it is, and it is not `İ`. -/
theorem shifted_image {n : Nat} (h : shifted lowercaseShifts n ≠ n) :
    shifted lowercaseShifts (shifted lowercaseShifts n) = shifted lowercaseShifts n ∧
      shifted lowercaseShifts n ≠ 'İ'.toNat := by
  have htable : ∀ shift ∈ lowercaseShifts,
      leavesAlone shift.image (shift.image + (shift.last - shift.first)) shift.step
          lowercaseShifts = true ∧
        (shift.image + (shift.last - shift.first) < 'İ'.toNat ∨ 'İ'.toNat < shift.image) := by
    decide +kernel
  rcases exists_shift_of_shifted_ne h with ⟨shift, hshift, hpoint, himage⟩
  rcases htable shift hshift with ⟨halone, hdotted⟩
  rcases Shift.of_mem_points hpoint with ⟨hfirst, hlast, hstep⟩
  rw [himage]
  constructor
  · apply shifted_of_leavesAlone halone (by omega) (by omega)
    rw [Nat.add_sub_cancel_left]
    exact hstep
  · omega

/-- Folding leaves folded characters as they are. -/
theorem foldChar_foldChar (c : Char) : foldChar (foldChar c) = foldChar c := by
  by_cases hdotted : c = 'İ'
  · rw [hdotted]
    decide
  · have hfold : foldChar c = Char.ofNat (shifted lowercaseShifts c.toNat) := if_neg hdotted
    by_cases hsame : shifted lowercaseShifts c.toNat = c.toNat
    · rw [hsame, Char.ofNat_toNat] at hfold
      rw [hfold, hfold]
    · rcases shifted_image hsame with ⟨hagain, hne⟩
      by_cases hzero : foldChar c = '\x00'
      · rw [hzero]
        decide
      · have hpoint := eq_toNat_of_ofNat_eq hfold.symm hzero
        rw [hpoint] at hagain hne
        have hplain : foldChar c ≠ 'İ' := fun heq => hne (by rw [heq])
        rw [foldChar, if_neg hplain, hagain, Char.ofNat_toNat]

/-- The lower-case form of a character is its folded form, with a combining dot behind it if the
character is `İ`. -/
theorem lowerChar_eq (c : Char) :
    lowerChar c = foldChar c :: if c = 'İ' then ['\u0307'] else [] := by
  unfold lowerChar foldChar
  split <;> rfl

/-- Folding leaves lower-case characters as they are. -/
theorem foldChar_of_mem_lowerChar {c x : Char} (h : x ∈ lowerChar c) : foldChar x = x := by
  rw [lowerChar_eq] at h
  rcases List.mem_cons.mp h with rfl | h
  · exact foldChar_foldChar c
  · split at h
    · rw [List.mem_singleton.mp h]
      decide
    · simp at h

/-- Folding leaves a text in lower case as it is. -/
theorem foldChar_of_mem_lowerFrom {before : Bool} {cs : List Char} {x : Char}
    (h : x ∈ lowerFrom before [] cs) : foldChar x = x := by
  induction cs generalizing before with
  | nil => simp [lowerFrom] at h
  | cons c cs ih =>
    rw [lowerFrom_cons, List.mem_append, lowerAt] at h
    rcases h with h | h
    · split at h
      · have hsigma : ∀ b : Bool, foldChar (if b = true then 'ς' else 'σ') =
            if b = true then 'ς' else 'σ' := by
          decide
        rw [List.mem_singleton.mp h]
        exact hsigma _
      · exact foldChar_of_mem_lowerChar h
    · exact ih h

/-- Folding leaves the terms of a text as they are. -/
theorem foldChars_of_mem_terms {text term : String} (h : term ∈ terms text) :
    foldChars term.toList = term.toList := by
  rcases List.mem_map.mp h with ⟨run, hrun, rfl⟩
  rw [toList_lowercase] at hrun
  rw [String.toList_ofList, foldChars]
  refine (List.map_congr_left fun x hx => ?_).trans (List.map_id run)
  exact foldChar_of_mem_lowerFrom ((of_mem_runs hrun).1.subset hx)

/-! ## Words that end in a capital sigma -/

/-- A capital sigma ends a word: a cased letter stands before it, and none behind it, when those
that case ignores are passed over. -/
def HasFinalSigma (cs : List Char) : Prop :=
  ∃ before after, cs = before ++ 'Σ' :: after ∧ casedNear before.reverse = true ∧
    casedNear after = false

/-- The places in a text can be tried one after the other. -/
theorem exists_place_iff (cs : List Char) :
    (∃ i ∈ List.range cs.length, cs[i]? = some 'Σ' ∧ casedNear (cs.take i).reverse = true ∧
      casedNear (cs.drop (i + 1)) = false) ↔ HasFinalSigma cs := by
  constructor
  · rintro ⟨i, -, hsigma, hbefore, hafter⟩
    obtain ⟨hi, hget⟩ := List.getElem?_eq_some_iff.mp hsigma
    refine ⟨cs.take i, cs.drop (i + 1), ?_, hbefore, hafter⟩
    rw [← hget, List.cons_getElem_drop_succ, List.take_append_drop]
  · rintro ⟨before, after, rfl, hbefore, hafter⟩
    refine ⟨before.length, by simp, by simp, ?_, ?_⟩
    · rw [List.take_left]
      exact hbefore
    · rw [List.append_cons, List.drop_left' (by simp)]
      exact hafter

instance (cs : List Char) : Decidable (HasFinalSigma cs) :=
  decidable_of_iff _ (exists_place_iff cs)

/-- Where no word ends in a capital sigma, every character is lower-cased by itself. -/
theorem lowerFrom_eq_flatMap {cs : List Char} (h : ¬ HasFinalSigma cs) :
    lowerFrom false [] cs = cs.flatMap lowerChar := by
  have hbehind : ∀ before after, before ++ after = cs →
      lowerFrom (casedNear before.reverse) [] after = after.flatMap lowerChar := by
    intro before after hsplit
    induction after generalizing before with
    | nil => rfl
    | cons c after ih =>
      have hlower : lowerAt (casedNear before.reverse) c after = lowerChar c := by
        rw [lowerAt]
        by_cases hsigma : c = 'Σ'
        · have hnot : (casedNear before.reverse && !casedNear after) = false := by
            rw [← Bool.not_eq_true, Bool.and_eq_true, Bool.not_eq_true']
            exact fun hends => h ⟨before, after, by rw [← hsplit, hsigma], hends⟩
          rw [if_pos hsigma, hnot, hsigma]
          decide
        · rw [if_neg hsigma]
      have hnext := ih (before ++ [c]) (by rw [← hsplit, List.append_assoc, List.singleton_append])
      rw [List.reverse_append, List.reverse_singleton, List.singleton_append, casedNear] at hnext
      rw [lowerFrom_cons, hlower, casedAfter, hnext, List.flatMap_cons]
  exact hbehind [] cs rfl

/-- Without `İ`, lower-casing every character by itself is folding. -/
theorem flatMap_lowerChar {cs : List Char} (h : 'İ' ∉ cs) :
    cs.flatMap lowerChar = foldChars cs := by
  induction cs with
  | nil => rfl
  | cons c cs ih =>
    rw [List.mem_cons, not_or] at h
    rw [List.flatMap_cons, ih h.2, lowerChar_eq, if_neg (Ne.symm h.1)]
    rfl

/-! ## The combining dot -/

/-- A beginning without the combining dot is not lost when the characters are folded one by one. -/
theorem prefix_foldChars {needle cs : List Char} (hdot : '\u0307' ∉ needle)
    (h : needle <+: cs.flatMap lowerChar) : needle <+: foldChars cs := by
  induction cs generalizing needle with
  | nil => exact h
  | cons c cs ih =>
    cases needle with
    | nil => exact List.nil_prefix
    | cons x needle =>
      rw [List.mem_cons, not_or] at hdot
      rw [List.flatMap_cons, lowerChar_eq, List.cons_append, List.cons_prefix_cons] at h
      rcases h with ⟨rfl, h⟩
      rw [foldChars, List.map_cons, List.cons_prefix_cons]
      refine ⟨rfl, ?_⟩
      split at h
      · -- The dot is no character of the needle, so the needle ends before it.
        cases needle with
        | nil => exact List.nil_prefix
        | cons y needle =>
          rw [List.singleton_append, List.cons_prefix_cons] at h
          exact absurd (h.1 ▸ List.mem_cons_self) hdot.2
      · exact ih hdot.2 h

/-- What stands in the lower-case text without a combining dot stands in the folded one. -/
theorem infix_foldChars {needle cs : List Char} (hne : needle ≠ []) (hdot : '\u0307' ∉ needle)
    (h : needle <:+: cs.flatMap lowerChar) : needle <:+: foldChars cs := by
  induction cs with
  | nil => exact h
  | cons c cs ih =>
    have hdotted : ¬ needle <+: '\u0307' :: cs.flatMap lowerChar := by
      intro hbegins
      obtain ⟨x, needle, rfl⟩ := List.exists_cons_of_ne_nil hne
      rw [List.cons_prefix_cons] at hbegins
      exact hdot (hbegins.1 ▸ List.mem_cons_self)
    have hsplit : needle <+: (c :: cs).flatMap lowerChar ∨ needle <:+: cs.flatMap lowerChar := by
      rw [List.flatMap_cons, lowerChar_eq, List.cons_append] at h ⊢
      rcases List.infix_cons_iff.mp h with hbegins | hbehind
      · exact .inl hbegins
      · right
        split at hbehind
        · rw [List.singleton_append, List.infix_cons_iff] at hbehind
          exact hbehind.resolve_left hdotted
        · exact hbehind
    rcases hsplit with hbegins | hbehind
    · exact (prefix_foldChars hdot hbegins).isInfix
    · exact List.infix_cons (ih hbehind)

end Text
end TextSearch
