import TextSearch.Index.Entry
import TextSearch.Proofs.Index.Tables
import TextSearch.Proofs.Text.Capitals
import TextSearch.Proofs.Text.Separation

/-!
# What a document is found under

A document is found under the words of its title and its body and under its facets.

Main results:

- Theorem `mem_terms_analyze`: the terms of a document are its words and its facets.
- Theorem `words_eq`: the words of a document are those of its title and those of its body.
- Theorem `mem_words_of_standsIn`: the terms of a piece of the title or of the body are words of the
  document.
- Theorems `colon_not_mem_of_mem_words` and `exists_stem_of_mem_facets`: a word has no colon, and a
  facet begins with ASCII letters and a colon.
-/

namespace TextSearch

namespace Table

/-- The keys of a tally are the elements that were counted. -/
theorem mem_keys_tally {κ : Type} [Ord κ] [DecidableEq κ] [Std.TransOrd κ] [Std.LawfulEqOrd κ]
    {keys : List κ} {k : κ} : k ∈ (tally keys).keys ↔ k ∈ keys := by
  rw [mem_keys_iff, contains, find?_tally]
  by_cases hk : k ∈ keys <;> simp [hk]

end Table

namespace Document

/-- The terms of a document are its words and its facets. -/
theorem mem_terms_analyze {document : Document} {term : String} :
    term ∈ document.analyze.terms ↔ term ∈ document.words ∨ term ∈ document.facets := by
  rw [analyze]
  simp only [Table.mem_keys_tally, List.mem_append]

/-- All that a document is found under, words with their repetitions. -/
def derived (document : Document) : List String :=
  document.words ++ document.facets

/-- The entry of a document is posted under the terms that the document derives. -/
theorem mem_terms_analyze_iff_mem_derived {document : Document} {term : String} :
    term ∈ document.analyze.terms ↔ term ∈ document.derived := by
  rw [mem_terms_analyze, derived, List.mem_append]

/-- The words of a document are those of its title and those of its body. -/
theorem words_eq (document : Document) :
    document.words = Text.terms document.title ++ Text.terms document.body :=
  Text.terms_append_space document.title document.body

/-- The terms of a piece of the title or of the body are words of the document. -/
theorem mem_words_of_standsIn {document : Document} {isSeparator : Char → Bool}
    (hblank : ∀ c, isSeparator c = true → Text.isBlank c = true) {piece : String}
    (hpiece : Text.StandsIn isSeparator piece document.title ∨
      Text.StandsIn isSeparator piece document.body) {word : String}
    (hword : word ∈ Text.terms piece) : word ∈ document.words := by
  rw [words_eq, List.mem_append]
  rcases hpiece with htitle | hbody
  · exact .inl ((Text.terms_infix_of_standsIn hblank htitle).subset hword)
  · exact .inr ((Text.terms_infix_of_standsIn hblank hbody).subset hword)

/-- No word of a title or a body has a colon. -/
theorem colon_not_mem_of_mem_words {document : Document} {word : String}
    (h : word ∈ document.words) : ':' ∉ word.toList := by
  intro hcolon
  exact absurd (Text.isAlphanumeric_of_mem_terms h ':' hcolon) (by decide)

/-- A facet begins with ASCII letters and a colon. -/
theorem exists_stem_of_mem_facets {document : Document} {facet : String}
    (h : facet ∈ document.facets) :
    ∃ stem rest : List Char, facet.toList = stem ++ ':' :: rest ∧ stem ≠ [] ∧
      stem.all Text.isAsciiLetter = true := by
  rw [facets, List.mem_append, List.mem_singleton] at h
  rcases h with htag | rfl
  · rcases List.mem_map.mp htag with ⟨tag, -, rfl⟩
    refine ⟨['t', 'a', 'g'], (Text.lowercase tag).toList, ?_, by simp, by decide +kernel⟩
    simp [tagFacet]
  · refine ⟨['t', 'y', 'p', 'e'], (Text.lowercase document.kind.name).toList, ?_, by simp,
      by decide +kernel⟩
    simp [kindFacet]

end Document
end TextSearch
