import TextSearch.Proofs.Search.Relevance

/-!
# The divisions of a score

For each word of a query a score divides twice: the occurrences of the word by the words of the
document, and all documents by those with the word.  The arithmetic of scores is a parameter, so the
divisions can be written down by the computation itself: `Weighing.recording` computes a score whose
value is the list of the divisions that are carried out on the way.

In a reachable index these lists hold no division by zero, and the quotients are in the ranges that
relevance needs.  Both follow from two facts about what is stored: the counts of a document add up to
the number of its words, and no term is posted for more documents than there are.

Main results:

- Theorem `Index.mem_divisions_iff`: which divisions a score carries out.
- Theorem `Index.score_eq_of_agree`: a score depends on no other quotients than the recorded ones.
- Theorem `Index.divisions_defined`: the counts behind the scores agree, and no division of a score
  is by zero.
-/

namespace TextSearch

/-- A division of two counts. -/
inductive Division where
  /-- The occurrences of a word by all words of the document. -/
  | ofWords (part whole : Nat)
  /-- All documents by those with a word. -/
  | ofDocuments (all containing : Nat)
  deriving DecidableEq

namespace Weighing

/-! ## Recording divisions -/

/-- The arithmetic in which a score is the list of the divisions that are carried out for it. -/
def recording : Weighing (List Division) where
  zero := []
  add := (· ++ ·)
  mul := (· ++ ·)
  ratio part whole := [.ofWords part whole]
  rarity all containing := [.ofDocuments all containing]
  boost := []

/-- A document without words is not divided by their number. -/
theorem mem_termFrequency_recording {entry : Entry} {word : String} {division : Division} :
    division ∈ recording.termFrequency entry word ↔
      entry.wordCount ≠ 0 ∧ division = .ofWords (entry.count word) entry.wordCount := by
  rw [termFrequency]
  split
  · rename_i hzero
    simp [recording, hzero]
  · rename_i hsome
    simp [recording, hsome]

/-- Where no document has the word, or there is none at all, nothing is divided. -/
theorem mem_inverseFrequency_recording {all containing : Nat} {division : Division} :
    division ∈ recording.inverseFrequency all containing ↔
      (containing ≠ 0 ∧ all ≠ 0) ∧ division = .ofDocuments all containing := by
  rw [inverseFrequency, ← not_or]
  split
  · rename_i hnone
    simp [recording, hnone]
  · rename_i hsome
    simp [recording, hsome]

/-- The title multiplies a score and divides nothing. -/
theorem boosted_recording (words : List String) (document : Document)
    (divisions : List Division) : recording.boosted words document divisions = divisions := by
  rw [boosted]
  refine List.foldl_fixed' (fun word => ?_) words
  rw [show recording.mul divisions recording.boost = divisions from List.append_nil divisions,
    ite_self]

/-- The divisions of a score come word by word: first the one by the words of the document, then
those behind the weight of the word. -/
theorem score_recording (weighed : List (String × List Division)) (entry : Entry) :
    recording.score weighed entry =
      weighed.flatMap fun p => recording.termFrequency entry p.1 ++ p.2 := by
  rw [score, boosted_recording]
  exact List.flatMap_eq_foldl.symm

/-! ## Quotients -/

/-- A part by a whole that is no less is between zero and one, also where both are zero. -/
theorem ratio_mem_unit {K : Type} [Field K] [LinearOrder K] [IsStrictOrderedRing K]
    {part whole : Nat} (h : part ≤ whole) : 0 ≤ (part / whole : K) ∧ (part / whole : K) ≤ 1 :=
  ⟨div_nonneg (Nat.cast_nonneg part) (Nat.cast_nonneg whole),
    div_le_one_of_le₀ (Nat.cast_le.mpr h) (Nat.cast_nonneg whole)⟩

/-- The same arithmetic with other quotients. -/
def withQuotients {S : Type} (w : Weighing S) (ratio rarity : Nat → Nat → S) : Weighing S :=
  { w with ratio := ratio, rarity := rarity }

end Weighing

namespace Index

/-! ## The divisions for an index -/

/-- The divisions that are carried out for the score of an entry. -/
def divisions (index : Index) (words : List String) (entry : Entry) : List Division :=
  Weighing.recording.score (Weighing.recording.weigh index words) entry

variable {index : Index} {words : List String} {entry : Entry}

/-- A score divides for each word of the query: by the number of words of the document if it has
any, and by the number of documents with the word if there are any. -/
theorem mem_divisions_iff {division : Division} :
    division ∈ index.divisions words entry ↔
      ∃ word ∈ words,
        (entry.wordCount ≠ 0 ∧ division = .ofWords (entry.count word) entry.wordCount) ∨
          (index.postings.frequency word ≠ 0 ∧ index.size ≠ 0) ∧
            division = .ofDocuments index.size (index.postings.frequency word) := by
  rw [divisions, Weighing.score_recording, Weighing.weigh, List.flatMap_map, List.mem_flatMap]
  simp only [List.mem_append, Weighing.mem_termFrequency_recording,
    Weighing.mem_inverseFrequency_recording]

/-- A score depends on no other quotients than the recorded ones: what is made of other pairs of
counts, and of a denominator of zero above all, does not matter. -/
theorem score_eq_of_agree {S : Type} (w : Weighing S) {ratio rarity : Nat → Nat → S}
    (hratio : ∀ part whole, .ofWords part whole ∈ index.divisions words entry →
      ratio part whole = w.ratio part whole)
    (hrarity : ∀ all containing, .ofDocuments all containing ∈ index.divisions words entry →
      rarity all containing = w.rarity all containing) :
    (w.withQuotients ratio rarity).score ((w.withQuotients ratio rarity).weigh index words) entry =
      w.score (w.weigh index words) entry := by
  -- Where the guard of a quotient holds, both arithmetics give zero and nothing is recorded.
  have hfrequency : ∀ word ∈ words,
      (w.withQuotients ratio rarity).termFrequency entry word = w.termFrequency entry word := by
    intro word hword
    rw [Weighing.termFrequency, Weighing.termFrequency]
    split
    · rfl
    · rename_i hsome
      exact hratio _ _ (mem_divisions_iff.mpr ⟨word, hword, .inl ⟨hsome, rfl⟩⟩)
  have hweigh : (w.withQuotients ratio rarity).weigh index words = w.weigh index words := by
    refine List.map_congr_left fun word hword => congrArg (Prod.mk word) ?_
    rw [Weighing.inverseFrequency, Weighing.inverseFrequency]
    split
    · rfl
    · rename_i hsome
      exact hrarity _ _ (mem_divisions_iff.mpr ⟨word, hword, .inr ⟨not_or.mp hsome, rfl⟩⟩)
  have hbase : (w.withQuotients ratio rarity).baseScore (w.weigh index words) entry =
      w.baseScore (w.weigh index words) entry := by
    refine List.foldl_ext _ _ _ fun score p hp => ?_
    obtain ⟨word, hword, rfl⟩ := List.mem_map.mp hp
    exact congrArg (fun frequency => w.add score (w.mul frequency _)) (hfrequency word hword)
  rw [hweigh, Weighing.score, Weighing.score, hbase]
  rfl

/-- Where what is stored with a document agrees, its words are divided by a number that is not zero
and not less than theirs. -/
theorem part_le_whole_of_mem_divisions (h : entry.Counted) {part whole : Nat}
    (hmem : .ofWords part whole ∈ index.divisions words entry) : whole ≠ 0 ∧ part ≤ whole := by
  obtain ⟨word, -, ⟨hsome, heq⟩ | ⟨-, heq⟩⟩ := mem_divisions_iff.mp hmem
  · obtain ⟨rfl, rfl⟩ := Division.ofWords.inj heq
    exact ⟨hsome, h.count_le_wordCount word⟩
  · contradiction

/-- Where no term is posted for more documents than there are, all documents are divided by a number
that is not zero and not greater than theirs. -/
theorem containing_le_all_of_mem_divisions
    (h : ∀ term, index.postings.frequency term ≤ index.size) {all containing : Nat}
    (hmem : .ofDocuments all containing ∈ index.divisions words entry) :
    containing ≠ 0 ∧ containing ≤ all := by
  obtain ⟨word, -, ⟨-, heq⟩ | ⟨⟨hsome, -⟩, heq⟩⟩ := mem_divisions_iff.mp hmem
  · contradiction
  · obtain ⟨rfl, rfl⟩ := Division.ofDocuments.inj heq
    exact ⟨hsome, h word⟩

/-! ## Reachable indexes -/

variable {K : Type} [Field K] [LinearOrder K] [IsStrictOrderedRing K]

/-- After any history the counts that are stored with a live document agree, and no term is posted
for more documents than there are.  So in exact numbers the part of a document that a word makes up
is between zero and one, whichever word it is.  Whichever words are asked for, a score divides by
no number of words or of documents that is zero, and the quotient of all documents and those with a
word is at least one; so in any arithmetic, whatever is made of a denominator of zero changes no
score. -/
theorem divisions_defined (rarity : Nat → Nat → K) (changes : List Change) :
    (∀ slot entry, (after changes).entryAt? slot = some entry →
      entry.Counted ∧
      (∀ word, 0 ≤ (Weighing.exact rarity).termFrequency entry word ∧
        (Weighing.exact rarity).termFrequency entry word ≤ 1) ∧
      ∀ words,
        (∀ part whole : Nat, .ofWords part whole ∈ (after changes).divisions words entry →
          whole ≠ 0 ∧ 0 ≤ (part / whole : K) ∧ (part / whole : K) ≤ 1) ∧
        (∀ all containing : Nat,
          .ofDocuments all containing ∈ (after changes).divisions words entry →
            containing ≠ 0 ∧ 1 ≤ (all / containing : K)) ∧
        ∀ (S : Type) (w : Weighing S) (ratio rarity : Nat → Nat → S),
          (∀ part whole, whole ≠ 0 → ratio part whole = w.ratio part whole) →
          (∀ all containing, containing ≠ 0 → rarity all containing = w.rarity all containing) →
          (w.withQuotients ratio rarity).score
              ((w.withQuotients ratio rarity).weigh (after changes) words) entry =
            w.score (w.weigh (after changes) words) entry) ∧
    ∀ term, (after changes).postings.frequency term ≤ (after changes).size := by
  have hfrequency := (holds_after changes).frequency_le_size
  refine ⟨fun slot entry hentry => ?_, hfrequency⟩
  have hcounted := (sound_after changes).counted hentry
  refine ⟨hcounted, fun word => ?_, fun words => ?_⟩
  · rw [Weighing.termFrequency_exact]
    exact Weighing.ratio_mem_unit (hcounted.count_le_wordCount word)
  have hwords : ∀ part whole, .ofWords part whole ∈ (after changes).divisions words entry →
      whole ≠ 0 ∧ part ≤ whole := fun _ _ => part_le_whole_of_mem_divisions hcounted
  have hdocuments : ∀ all containing,
      .ofDocuments all containing ∈ (after changes).divisions words entry →
        containing ≠ 0 ∧ containing ≤ all :=
    fun _ _ => containing_le_all_of_mem_divisions hfrequency
  refine ⟨fun part whole hmem => ?_, fun all containing hmem => ?_, ?_⟩
  · obtain ⟨hsome, hle⟩ := hwords part whole hmem
    exact ⟨hsome, Weighing.ratio_mem_unit hle⟩
  · obtain ⟨hsome, hle⟩ := hdocuments all containing hmem
    have hpositive : (0 : K) < containing := Nat.cast_pos.mpr (Nat.pos_of_ne_zero hsome)
    exact ⟨hsome, (one_le_div hpositive).mpr (Nat.cast_le.mpr hle)⟩
  · intro S w ratio rarity hratio hrarity
    apply score_eq_of_agree
    · exact fun part whole hmem => hratio part whole (hwords part whole hmem).1
    · exact fun all containing hmem => hrarity all containing (hdocuments all containing hmem).1

/-- A page has one of its words three times, one of its tags in two spellings, and an empty tag; no
document has the second word that is asked for. -/
theorem divisions_defined_page :
    ∃ index : Index, ∃ page : Document,
      page = { Sample.page "a" "Rust notes" "rust, RUST!" with tags := ["Web", "", "web"] } ∧
      index = after [.add page, .add (Sample.page "b" "" "go")] ∧
      page.analyze.Counted ∧
      "tag:web" ∈ page.analyze.terms ∧ "tag:" ∉ page.analyze.terms ∧
      .ofWords 3 4 ∈ index.divisions ["rust", "no"] page.analyze ∧
      4 ≠ 0 ∧ ((3 : ℕ) / (4 : ℕ) : ℝ) ≤ 1 ∧
      .ofDocuments 2 1 ∈ index.divisions ["rust", "no"] page.analyze ∧
      1 ≠ 0 ∧ 1 ≤ ((2 : ℕ) / (1 : ℕ) : ℝ) ∧
      index.postings.frequency "rust" ≤ index.size := by
  obtain ⟨page, hpage⟩ : ∃ page, page =
      { Sample.page "a" "Rust notes" "rust, RUST!" with tags := ["Web", "", "web"] } := ⟨_, rfl⟩
  obtain ⟨changes, hchanges⟩ :
      ∃ changes : List Change, changes = [.add page, .add (Sample.page "b" "" "go")] := ⟨_, rfl⟩
  have hlive : survivors changes = [page, Sample.page "b" "" "go"] := by
    rw [hchanges, hpage]
    rfl
  have h := holds_after changes
  rw [hlive] at h
  obtain ⟨slot, hentry⟩ := (h.mem_values_iff page).mpr (by simp)
  have hcount : page.analyze.count "rust" = 3 := by
    rw [Document.count_analyze, hpage]
    decide +kernel
  have hlength : page.analyze.wordCount = 4 := by
    rw [Document.wordCount_analyze, hpage]
    decide +kernel
  have hrust : (after changes).postings.frequency "rust" = 1 := by
    rw [h.frequency_eq_countP, hpage]
    decide +kernel
  have hwords : .ofWords 3 4 ∈ (after changes).divisions ["rust", "no"] page.analyze :=
    mem_divisions_iff.mpr ⟨"rust", by simp, .inl (by simp [hcount, hlength])⟩
  have hdocuments : .ofDocuments 2 1 ∈ (after changes).divisions ["rust", "no"] page.analyze :=
    mem_divisions_iff.mpr ⟨"rust", by simp, .inr (by simp [hrust, h.size_eq])⟩
  obtain ⟨hentries, hfrequency⟩ := divisions_defined Weighing.logRarity changes
  obtain ⟨hcounted, -, hdivisions⟩ := hentries slot page.analyze hentry
  obtain ⟨hwhole, -, hpart⟩ := (hdivisions ["rust", "no"]).1 3 4 hwords
  obtain ⟨hsome, hquotient⟩ := (hdivisions ["rust", "no"]).2.1 2 1 hdocuments
  refine ⟨after changes, page, hpage, by rw [hchanges], hcounted, ?_, ?_, hwords, hwhole, hpart,
    hdocuments, hsome, hquotient, hfrequency "rust"⟩
  all_goals
    rw [Document.mem_terms_analyze, hpage]
    decide +kernel

end Index
end TextSearch
