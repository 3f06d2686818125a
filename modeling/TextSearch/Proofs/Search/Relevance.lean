import Mathlib.Algebra.Order.BigOperators.Group.List
import Mathlib.Algebra.Order.Field.Basic
import Mathlib.Analysis.SpecialFunctions.Log.Basic
import TextSearch.Proofs.Index.Counts
import TextSearch.Proofs.Index.Recount
import TextSearch.Proofs.Text.Occurrences
import TextSearch.Sample

/-!
# The order of relevance

With exact numbers in the place of doubles, the score of a document is a sum over the words of the
query, times a power of the boost.  The rarity of words can be any function that is not negative
where a word is in one of the documents and in no more than all of them, which is where it is asked
for: an index never counts more documents with a word than it holds.

Main results:

- Theorem `Weighing.score_exact`: the score as a sum and a power.
- Theorem `Weighing.inverseFrequency_nonneg`: no word has a negative weight.
- Theorem `Index.relevance_ordered`: no score is negative, and a document that has the words of the
  query more often, in its text and in its title, is not less relevant.
-/

namespace TextSearch

/-- How many of the words occur in the title, repeated ones repeatedly. -/
def Document.titleHits (document : Document) (words : List String) : Nat :=
  words.countP fun word => word.toList <:+: (Text.lowercase document.title).toList

namespace Weighing

/-! ## Exact scores -/

section Exact

variable {K : Type} [Field K]

/-- Scores as exact numbers, with any rarity of words. -/
def exact (rarity : Nat → Nat → K) : Weighing K where
  zero := 0
  add := (· + ·)
  mul := (· * ·)
  ratio part whole := part / whole
  rarity := rarity
  boost := 3 / 2

variable (rarity : Nat → Nat → K)

/-- A document without words needs no case of its own: its quotients are zero too. -/
theorem termFrequency_exact (entry : Entry) (word : String) :
    (exact rarity).termFrequency entry word = (entry.count word : K) / entry.wordCount := by
  rw [termFrequency]
  split
  · rename_i hzero
    rw [hzero, Nat.cast_zero, div_zero]
    rfl
  · rfl

/-- The score without the title is a sum over the words of the query. -/
theorem baseScore_exact (weighed : List (String × K)) (entry : Entry) :
    (exact rarity).baseScore weighed entry =
      (weighed.map fun p => (entry.count p.1 : K) / entry.wordCount * p.2).sum := by
  rw [baseScore]
  suffices hrun : ∀ score : K, weighed.foldl (fun score p =>
      (exact rarity).add score ((exact rarity).mul ((exact rarity).termFrequency entry p.1) p.2))
        score = score + (weighed.map fun p => (entry.count p.1 : K) / entry.wordCount * p.2).sum from
    (hrun 0).trans (zero_add _)
  induction weighed with
  | nil => simp
  | cons head rest ih =>
    intro score
    rw [List.foldl_cons, ih, List.map_cons, List.sum_cons, termFrequency_exact]
    exact add_assoc _ _ _

/-- The title multiplies a score by a power of the boost. -/
theorem boosted_exact (words : List String) (document : Document) (score : K) :
    (exact rarity).boosted words document score =
      score * (3 / 2) ^ document.titleHits words := by
  rw [boosted, Document.titleHits]
  induction words generalizing score with
  | nil => simp
  | cons word rest ih =>
    rw [List.foldl_cons, ih, List.countP_cons]
    by_cases hinfix : word.toList <:+: (Text.lowercase document.title).toList
    · rw [if_pos (Text.contains_iff_infix.mpr hinfix), if_pos (by simpa using hinfix), pow_succ']
      exact mul_assoc _ _ _
    · rw [if_neg (mt Text.contains_iff_infix.mp hinfix), if_neg (by simpa using hinfix), add_zero]

/-- A score is the one without the title, times a power of the boost. -/
theorem score_exact (weighed : List (String × K)) (entry : Entry) :
    (exact rarity).score weighed entry =
      (exact rarity).baseScore weighed entry *
        (3 / 2) ^ entry.document.titleHits (weighed.map (·.1)) := by
  rw [score, boosted_exact]

end Exact

/-! ## Signs and orders -/

section Ordered

variable {K : Type} [Field K] [LinearOrder K] [IsStrictOrderedRing K] {rarity : Nat → Nat → K}

omit [IsStrictOrderedRing K] in
/-- No word has a negative weight. -/
theorem inverseFrequency_nonneg
    (hrarity : ∀ all containing, 1 ≤ containing → containing ≤ all → 0 ≤ rarity all containing)
    {all containing : Nat} (h : containing ≤ all) :
    0 ≤ (exact rarity).inverseFrequency all containing := by
  rw [inverseFrequency]
  split
  · exact le_rfl
  · rename_i hsome
    exact hrarity all containing (by omega) h

variable {weighed : List (String × K)} (hweighed : ∀ p ∈ weighed, 0 ≤ p.2)

include hweighed

/-- Weights that are not negative give no negative score. -/
theorem baseScore_nonneg (entry : Entry) : 0 ≤ (exact rarity).baseScore weighed entry := by
  rw [baseScore_exact]
  apply List.sum_nonneg
  intro summand hsummand
  obtain ⟨p, hp, rfl⟩ := List.mem_map.mp hsummand
  exact mul_nonneg (div_nonneg (Nat.cast_nonneg _) (Nat.cast_nonneg _)) (hweighed p hp)

/-- Of two texts of the same length, the one that has all words at least as often scores at least as
high before the title is looked at. -/
theorem baseScore_le_baseScore {a b : Entry} (hlength : a.wordCount = b.wordCount)
    (hcounts : ∀ p ∈ weighed, b.count p.1 ≤ a.count p.1) :
    (exact rarity).baseScore weighed b ≤ (exact rarity).baseScore weighed a := by
  rw [baseScore_exact, baseScore_exact, hlength]
  apply List.sum_le_sum
  intro p hp
  have hcount : (b.count p.1 : K) ≤ a.count p.1 := Nat.cast_le.mpr (hcounts p hp)
  exact mul_le_mul_of_nonneg_right (div_le_div_of_nonneg_right hcount (Nat.cast_nonneg _))
    (hweighed p hp)

end Ordered

/-! ## The logarithm as a rarity -/

/-- The rarity of a word: the logarithm of the quotient of all documents and those with the word. -/
noncomputable def logRarity (all containing : Nat) : ℝ :=
  Real.log (all / containing)

/-- The rarity of a word that is in some of the documents is not negative. -/
theorem logRarity_nonneg (all containing : Nat) (hsome : 1 ≤ containing) (hle : containing ≤ all) :
    0 ≤ logRarity all containing := by
  have hpositive : (0 : ℝ) < containing := Nat.cast_pos.mpr hsome
  exact Real.log_nonneg ((one_le_div hpositive).mpr (Nat.cast_le.mpr hle))

end Weighing

/-! ## Relevance in an index -/

namespace Index

variable {K : Type} [Field K] (rarity : Nat → Nat → K) (index : Index) (words : List String)

/-- The exact score of an entry without the title. -/
def plainRelevance (entry : Entry) : K :=
  (Weighing.exact rarity).baseScore ((Weighing.exact rarity).weigh index words) entry

/-- The exact score of an entry for the words of a query. -/
def relevance (entry : Entry) : K :=
  (Weighing.exact rarity).score ((Weighing.exact rarity).weigh index words) entry

/-- Each hit in the title multiplies the plain relevance by three halves. -/
theorem relevance_eq (entry : Entry) :
    relevance rarity index words entry =
      plainRelevance rarity index words entry *
        (3 / 2) ^ entry.document.titleHits words := by
  rw [relevance, Weighing.score_exact, Weighing.weigh, List.map_map]
  simp only [Function.comp_def, List.map_id']
  rfl

variable [LinearOrder K]

/-- In a reachable index no word of a query has a negative weight. -/
theorem weigh_nonneg
    (hrarity : ∀ all containing, 1 ≤ containing → containing ≤ all → 0 ≤ rarity all containing)
    (changes : List Change) :
    ∀ p ∈ (Weighing.exact rarity).weigh (after changes) words, 0 ≤ p.2 := by
  intro p hp
  obtain ⟨word, -, rfl⟩ := List.mem_map.mp hp
  exact Weighing.inverseFrequency_nonneg hrarity ((holds_after changes).frequency_le_size word)

variable [IsStrictOrderedRing K]

/-- Of two live documents with texts of one length, the one that has every word at least as often is
at least as relevant before the titles are looked at. -/
theorem plainRelevance_le_plainRelevance
    (hrarity : ∀ all containing, 1 ≤ containing → containing ≤ all → 0 ≤ rarity all containing)
    {changes : List Change} {s t : Slot} {a b : Entry}
    (ha : (after changes).entryAt? s = some a) (hb : (after changes).entryAt? t = some b)
    (hlength : a.document.words.length = b.document.words.length)
    (hcounts : ∀ word ∈ words, b.document.words.count word ≤ a.document.words.count word) :
    plainRelevance rarity (after changes) words b ≤
      plainRelevance rarity (after changes) words a := by
  have hsound := sound_after changes
  apply Weighing.baseScore_le_baseScore (weigh_nonneg rarity words hrarity changes)
  · rw [hsound.wordCount_eq ha, hsound.wordCount_eq hb, hlength]
  · intro p hp
    obtain ⟨word, hword, rfl⟩ := List.mem_map.mp hp
    rw [(hsound.counted ha).count_eq, (hsound.counted hb).count_eq]
    exact hcounts word hword

variable {rarity}

/-- In a reachable index, with the rarity of words any function that is not negative where at least
one document has the word and no more do than there are, no score is negative; of two live documents
with texts of one length, the one that has every word of the query at least as often, and at least
as many of them in its title, is at least as relevant; and if both have all words equally often, and
not for a score of zero, the one with more of the words in its title is the more relevant one. -/
theorem relevance_ordered
    (hrarity : ∀ all containing, 1 ≤ containing → containing ≤ all → 0 ≤ rarity all containing)
    (changes : List Change) (words : List String) :
    (∀ slot entry, (after changes).entryAt? slot = some entry →
      0 ≤ relevance rarity (after changes) words entry) ∧
    ∀ s t a b, (after changes).entryAt? s = some a → (after changes).entryAt? t = some b →
      a.document.words.length = b.document.words.length →
      ((∀ word ∈ words, b.document.words.count word ≤ a.document.words.count word) →
        b.document.titleHits words ≤ a.document.titleHits words →
        relevance rarity (after changes) words b ≤ relevance rarity (after changes) words a) ∧
      ((∀ word ∈ words, a.document.words.count word = b.document.words.count word) →
        0 < plainRelevance rarity (after changes) words a →
        b.document.titleHits words < a.document.titleHits words →
        relevance rarity (after changes) words b < relevance rarity (after changes) words a) := by
  have hboost : (1 : K) < 3 / 2 := by norm_num
  have hpower (n : Nat) : (0 : K) ≤ (3 / 2) ^ n := pow_nonneg (zero_le_one.trans hboost.le) n
  have hplain (entry : Entry) : 0 ≤ plainRelevance rarity (after changes) words entry :=
    Weighing.baseScore_nonneg (weigh_nonneg rarity words hrarity changes) entry
  simp only [relevance_eq]
  refine ⟨fun slot entry _ => mul_nonneg (hplain entry) (hpower _), ?_⟩
  intro s t a b ha hb hlength
  refine ⟨?_, ?_⟩
  · intro hcounts htitle
    have hle := plainRelevance_le_plainRelevance rarity words hrarity ha hb hlength hcounts
    exact mul_le_mul hle (pow_le_pow_right₀ hboost.le htitle) (hpower _) (hplain a)
  · intro hcounts hpositive htitle
    have hle := plainRelevance_le_plainRelevance rarity words hrarity ha hb hlength
      fun word hword => (hcounts word hword).ge
    have hge := plainRelevance_le_plainRelevance rarity words hrarity hb ha hlength.symm
      fun word hword => (hcounts word hword).le
    rw [le_antisymm hle hge]
    exact mul_lt_mul_of_pos_left (pow_lt_pow_right₀ hboost htitle) hpositive

/-- Two pages of two words each have one word of the query in their texts, equally often; the other
one, which is asked for twice, is a piece of the first title. -/
theorem relevance_ordered_titles :
    ∃ index : Index, ∃ notes other : Document,
      notes = Sample.page "a" "Notes" "rust" ∧ other = Sample.page "b" "Other" "rust" ∧
      index = after [.add notes, .add other, .add (Sample.page "c" "" "go")] ∧
      relevance Weighing.logRarity index ["rust", "no", "no"] other.analyze <
        relevance Weighing.logRarity index ["rust", "no", "no"] notes.analyze := by
  obtain ⟨notes, hnotes⟩ : ∃ notes, notes = Sample.page "a" "Notes" "rust" := ⟨_, rfl⟩
  obtain ⟨other, hother⟩ : ∃ other, other = Sample.page "b" "Other" "rust" := ⟨_, rfl⟩
  obtain ⟨changes, hchanges⟩ :
      ∃ changes : List Change, changes = [.add notes, .add other, .add (Sample.page "c" "" "go")] :=
    ⟨_, rfl⟩
  have hlive : survivors changes = [notes, other, Sample.page "c" "" "go"] := by
    rw [hchanges, hnotes, hother]
    rfl
  have h := holds_after changes
  rw [hlive] at h
  obtain ⟨s, ha⟩ := (h.mem_values_iff notes).mpr (by simp)
  obtain ⟨t, hb⟩ := (h.mem_values_iff other).mpr (by simp)
  have hrust : (after changes).postings.frequency "rust" = 2 := by
    rw [h.frequency_eq_countP, hnotes, hother]
    decide +kernel
  have hno : (after changes).postings.frequency "no" = 0 := by
    rw [h.frequency_eq_countP, hnotes, hother]
    decide +kernel
  have hcount : notes.analyze.count "rust" = 1 := by
    rw [Document.count_analyze, hnotes]
    decide +kernel
  have hwords : notes.analyze.wordCount = 2 := by
    rw [Document.wordCount_analyze, hnotes]
    decide +kernel
  have hpositive :
      0 < plainRelevance Weighing.logRarity (after changes) ["rust", "no", "no"] notes.analyze := by
    have hlog : 0 < Real.log (3 / 2) := Real.log_pos (by norm_num)
    rw [plainRelevance, Weighing.baseScore_exact]
    simpa [Weighing.weigh, Weighing.inverseFrequency, Weighing.exact, Weighing.logRarity, hrust,
      hno, h.size_eq, hcount, hwords] using hlog
  refine ⟨after changes, notes, other, hnotes, hother, by rw [hchanges], ?_⟩
  refine ((relevance_ordered Weighing.logRarity_nonneg changes ["rust", "no", "no"]).2 s t _ _ ha hb
    ?_).2 ?_ hpositive ?_
  all_goals
    rw [hnotes, hother]
    decide +kernel

end Index
end TextSearch
