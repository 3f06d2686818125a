import TextSearch.Proofs.Text.Lowercase

/-!
# The terms of a term

A text that has been broken into terms need not be broken again.  Lower-casing leaves every
character of a lower-case text as it is, wherever it stands: a sigma that ends a word has its final
form already, and it is no capital any more, so its neighbourhood is not examined.  So a term is its
own lower-case form; and because it is made of letters and digits, it is its own only term.

Main results:

- Theorem `lowerFrom_of_foldChars_eq`: lower-casing leaves a folded text as it is.
- Theorem `terms_of_mem_terms`: every term of a text is its own only term.
- Theorem `terms_append_and_stable`: texts are broken independently on both sides of a space, and
  their terms are stable.
-/

namespace TextSearch
namespace Text

/-- A character that folding leaves as it is is its own lower-case form, wherever it stands. -/
theorem lowerAt_of_foldChar_eq {c : Char} (h : foldChar c = c) (before : Bool)
    (after : List Char) : lowerAt before c after = [c] := by
  have hsigma : c ≠ 'Σ' := by
    rintro rfl
    exact absurd h (by decide)
  have hdotted : c ≠ 'İ' := by
    rintro rfl
    exact absurd h (by decide)
  rw [lowerAt, if_neg hsigma, lowerChar_eq, if_neg hdotted, h]

/-- Lower-casing leaves a folded text as it is. -/
theorem lowerFrom_of_foldChars_eq {cs : List Char} (h : foldChars cs = cs) (before : Bool) :
    lowerFrom before [] cs = cs := by
  induction cs generalizing before with
  | nil => rfl
  | cons c cs ih =>
    rw [foldChars, List.map_cons, List.cons.injEq] at h
    rw [lowerFrom_cons, lowerAt_of_foldChar_eq h.1, ih h.2, List.singleton_append]

/-- A term is in lower case already. -/
theorem lowercase_of_mem_terms {text term : String} (h : term ∈ terms text) :
    lowercase term = term := by
  rw [lowercase, lowerFrom_of_foldChars_eq (foldChars_of_mem_terms h), String.ofList_toList]

theorem ne_empty_of_mem_terms {text term : String} (h : term ∈ terms text) : term ≠ "" := by
  obtain ⟨run, hrun, rfl⟩ := List.mem_map.mp h
  rw [Ne, String.ofList_eq_empty_iff]
  exact ne_nil_of_mem_runs hrun

/-- Every term of a text is its own only term. -/
theorem terms_of_mem_terms {text term : String} (h : term ∈ terms text) :
    terms term = [term] := by
  have hlower := lowercase_of_mem_terms h
  have hne : term.toList ≠ [] := by
    rw [Ne, String.toList_eq_nil_iff]
    exact ne_empty_of_mem_terms h
  rw [terms_of_isAlphanumeric, hlower]
  · rw [hlower]
    exact hne
  · rw [hlower]
    exact isAlphanumeric_of_mem_terms h

/-- A text is broken into terms independently on both sides of a space; and no term is empty, all
its characters are letters and digits, and it is its own only term. -/
theorem terms_append_and_stable (a b text : String) :
    terms (a ++ " " ++ b) = terms a ++ terms b ∧
      ∀ term ∈ terms text, term ≠ "" ∧ (∀ c ∈ term.toList, isAlphanumeric c = true) ∧
        terms term = [term] := by
  refine ⟨terms_append_space a b, fun term hterm => ?_⟩
  exact ⟨ne_empty_of_mem_terms hterm, isAlphanumeric_of_mem_terms hterm, terms_of_mem_terms hterm⟩

/-- A sigma stands on each side of the space, with a mark between the two that is looked through.
The first one ends its word, and in the term by itself it is final, too. -/
theorem terms_append_and_stable_sigma :
    terms ("ΟΔΟΣ." ++ " " ++ "'ΣΑΣ, İz") = ["οδος", "σας", "i", "z"] ∧
      "οδος" ∈ terms "ΟΔΟΣ." ∧ terms "οδος" = ["οδος"] := by
  have hmem : "οδος" ∈ terms "ΟΔΟΣ." := by decide +kernel
  obtain ⟨happend, hstable⟩ := terms_append_and_stable "ΟΔΟΣ." "'ΣΑΣ, İz" "ΟΔΟΣ."
  refine ⟨?_, hmem, (hstable _ hmem).2.2⟩
  rw [happend]
  decide +kernel

end Text
end TextSearch
