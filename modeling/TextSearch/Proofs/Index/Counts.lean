import Mathlib.Algebra.Order.BigOperators.Group.List
import Mathlib.Algebra.Order.Group.Nat
import TextSearch.Proofs.Index.Suggestions
import TextSearch.Proofs.Index.Tags

/-!
# What is counted of a document

A document is stored with a table of its words, with the number of its words and with the list of
its terms.  The three are made from one list of words, but not from each other, and relevance relies
on their agreement: the counts in the table add up to the number of words, and the terms are the
counted words and the facets, which are told apart by their colons.

Main results:

- Theorem `Table.sum_values_tally`: the counts of a tally add up to the length of what was counted.
- Theorem `Document.counted_analyze`: what is stored with a document agrees.
- Theorem `Entry.Counted.count_le_wordCount`: no word occurs more often than there are words.
-/

namespace TextSearch

/-! ## Tallies -/

namespace Table

variable {κ : Type} [Ord κ] [DecidableEq κ]

omit [Ord κ] in
/-- One more occurrence adds one to the sum, whether or not its key has been counted before. -/
theorem sum_countFirst (k : κ) (entries : List (κ × Nat)) :
    ((countFirst k entries).map (·.2)).sum = (entries.map (·.2)).sum + 1 := by
  cases entries with
  | nil => rfl
  | cons head rest =>
    obtain ⟨k', n⟩ := head
    rw [countFirst]
    split
    · simp only [List.map_cons, List.sum_cons]
      omega
    · simp only [List.map_cons, List.sum_cons]
      omega

variable [Std.TransOrd κ] [Std.LawfulEqOrd κ]

/-- The counts of a tally add up to the number of elements that were counted. -/
theorem sum_values_tally (keys : List κ) : (tally keys).values.sum = keys.length := by
  have hrun : ∀ sortedKeys : List κ,
      ((sortedKeys.foldr countFirst []).map (·.2)).sum = sortedKeys.length := by
    intro sortedKeys
    induction sortedKeys with
    | nil => rfl
    | cons k rest ih => rw [List.foldr_cons, sum_countFirst, ih, List.length_cons]
  exact (hrun (sorted keys)).trans (perm_sorted keys).length_eq

/-- A tally lists no element without an occurrence. -/
theorem pos_of_mem_values_tally {keys : List κ} {n : Nat} (h : n ∈ (tally keys).values) :
    1 ≤ n := by
  obtain ⟨⟨k, n⟩, hmem, rfl⟩ := List.mem_map.mp h
  have hfind := (find?_eq_some_iff (tally keys) k n).mpr hmem
  rw [find?_tally] at hfind
  split at hfind
  · rename_i hk
    rw [← Option.some.inj hfind]
    exact List.count_pos_iff.mpr hk
  · contradiction

end Table

/-! ## Documents -/

/-- The counts, the number of words and the terms that are stored with a document agree. -/
structure Entry.Counted (entry : Entry) : Prop where
  positive : ∀ occurrences ∈ entry.counts.values, 1 ≤ occurrences
  count_eq : ∀ word, entry.count word = entry.document.words.count word
  total : entry.counts.values.sum = entry.wordCount
  ascending : entry.terms.Pairwise fun a b => Text.bytes a < Text.bytes b
  /-- The terms are the counted words, the facets of the tags, empty ones apart, and the facet of
  the kind. -/
  mem_terms_iff : ∀ term, term ∈ entry.terms ↔
    term ∈ entry.counts.keys ∨
      (∃ tag ∈ entry.document.tags, tag ≠ "" ∧ tagFacet tag = term) ∨
      term = kindFacet entry.document.kind.name
  ne_facet : ∀ word ∈ entry.counts.keys, ∀ text, word ≠ tagFacet text ∧ word ≠ kindFacet text

namespace Document

/-- A document is stored with the number of times that each word occurs in it. -/
theorem count_analyze (document : Document) (word : String) :
    document.analyze.count word = document.words.count word := by
  have hfind := Table.find?_tally document.words word
  have hcount : document.analyze.count word =
      ((Table.tally document.words).find? word).getD 0 := rfl
  by_cases hmem : word ∈ document.words
  · rw [hcount, hfind, if_pos hmem, Option.getD_some]
  · rw [hcount, hfind, if_neg hmem, Option.getD_none, List.count_eq_zero_of_not_mem hmem]

theorem wordCount_analyze (document : Document) :
    document.analyze.wordCount = document.words.length := by
  rw [analyze]

theorem counts_analyze (document : Document) :
    document.analyze.counts = Table.tally document.words := by
  rw [analyze]

/-- The words that are counted are those of the title and the body. -/
theorem mem_keys_counts_analyze {document : Document} {word : String} :
    word ∈ document.analyze.counts.keys ↔ word ∈ document.words := by
  rw [counts_analyze, Table.mem_keys_tally]

/-- What is stored with a document agrees. -/
theorem counted_analyze (document : Document) : document.analyze.Counted where
  positive := by
    intro occurrences hmem
    rw [counts_analyze] at hmem
    exact Table.pos_of_mem_values_tally hmem
  count_eq := document.count_analyze
  total := by
    rw [counts_analyze, wordCount_analyze, Table.sum_values_tally]
  ascending := by
    rw [analyze]
    exact Table.pairwise_bytes_keys _
  mem_terms_iff := by
    intro term
    rw [mem_terms_analyze, mem_keys_counts_analyze, facets, List.mem_append, List.mem_singleton,
      mem_tagFacets, document_analyze]
  ne_facet := by
    intro word hmem text
    have hcolon := colon_not_mem_of_mem_words (mem_keys_counts_analyze.mp hmem)
    refine ⟨?_, ?_⟩
    · rintro rfl
      exact hcolon (by simp [tagFacet])
    · rintro rfl
      exact hcolon (by simp [kindFacet])

end Document

namespace Entry.Counted

variable {entry : Entry}

/-- No word occurs more often than there are words, as its count is one of those that add up to
their number. -/
theorem count_le_wordCount (h : entry.Counted) (word : String) :
    entry.count word ≤ entry.wordCount := by
  rw [count, ← h.total]
  cases hfind : entry.counts.find? word with
  | none => exact Nat.zero_le _
  | some occurrences =>
    have hmem : (word, occurrences) ∈ entry.counts.entries :=
      (Table.find?_eq_some_iff _ _ _).mp hfind
    exact List.le_sum_of_mem (List.mem_map.mpr ⟨_, hmem, rfl⟩)

end Entry.Counted

/-! ## Live documents -/

namespace Index.Sound

variable {index : Index} (h : index.Sound) {slot : Slot} {entry : Entry}
  (hentry : index.entryAt? slot = some entry)

include h hentry

/-- What is stored with a live document agrees. -/
theorem counted : entry.Counted := by
  rw [h.analyzed slot entry hentry]
  exact entry.document.counted_analyze

/-- A live document is stored with the number of its words. -/
theorem wordCount_eq : entry.wordCount = entry.document.words.length := by
  have hstored := congrArg Entry.wordCount (h.analyzed slot entry hentry)
  exact hstored.trans (Document.wordCount_analyze entry.document)

end Index.Sound
end TextSearch
