import TextSearch.Proofs.Index.Answers
import TextSearch.Proofs.Index.Numbering
import TextSearch.Proofs.Index.Vocabulary
import TextSearch.Sample

/-!
# Tags of live documents

An index keeps its documents as they are given.  That goes for their tags as well: a tag that is
given twice is stored twice and returned twice.  Only what is derived from the tags has no
repetitions, because the terms of a document are listed once each.

Main results:

- Theorem `document?_isLastAddition`: a document is returned as it was in its last addition.
- Theorem `Document.terms_analyze_distinct`: repeated tags add no terms.
- Theorem `tags_distinct_iff`: no live document has a tag twice if and only if none was given with
  one.
-/

namespace TextSearch

namespace Document

/-- No term of a document is listed twice. -/
theorem nodup_terms_analyze (document : Document) : document.analyze.terms.Nodup :=
  Table.nodup_keys _

/-- The document with each tag at its first place only. -/
def withDistinctTags (document : Document) : Document :=
  { document with tags := Text.distinct document.tags }

/-- The facets of a document are made from its tags, the empty one left out. -/
theorem mem_tagFacets {document : Document} {facet : String} :
    facet ∈ document.tagFacets ↔ ∃ tag ∈ document.tags, tag ≠ "" ∧ tagFacet tag = facet := by
  simp only [tagFacets, List.mem_map, List.mem_filter, decide_eq_true_eq, and_assoc]

/-- A tag that is repeated leads to the same facet again, which is listed once. -/
theorem terms_analyze_distinct (document : Document) :
    document.withDistinctTags.analyze.terms = document.analyze.terms := by
  apply Table.keys_ext
  intro term
  have hfacets : term ∈ document.withDistinctTags.tagFacets ↔ term ∈ document.tagFacets := by
    simp only [mem_tagFacets, withDistinctTags, Text.distinct, List.mem_eraseDups]
  change term ∈ document.withDistinctTags.analyze.terms ↔ term ∈ document.analyze.terms
  rw [mem_terms_analyze, mem_terms_analyze, facets, facets, List.mem_append, List.mem_append,
    hfacets]
  rfl

end Document

namespace Index

/-- A live document is returned as it was in its last addition. -/
theorem document?_isLastAddition {changes : List Change} {id : String} {document : Document}
    (h : (after changes).document? id = some document) :
    document.id = id ∧ ∃ number, IsLastAddition (insertions changes) number document := by
  obtain ⟨hlive, hid⟩ := ((holds_after changes).document?_eq_some_iff id document).mp h
  obtain ⟨slot, hentry⟩ := ((holds_after changes).mem_values_iff document).mpr hlive
  exact ⟨hid, slot, (numbered_after changes).isLastAddition slot _ hentry⟩

/-- After any history a document is returned as it was in its last addition, with the same tags in
the same order.  So no live document has a tag twice if and only if none was given with one.  The
terms of a live document have no repetitions in any case, and are those that it would have with each
tag once. -/
theorem tags_distinct_iff (changes : List Change) :
    (∀ id document, (after changes).document? id = some document →
        document.id = id ∧ ∃ number, IsLastAddition (insertions changes) number document) ∧
      ((∀ id document, (after changes).document? id = some document → document.tags.Nodup) ↔
        ∀ document ∈ survivors changes, document.tags.Nodup) ∧
      ∀ slot entry, (after changes).entryAt? slot = some entry →
        entry.terms.Nodup ∧ entry.document.withDistinctTags.analyze.terms = entry.terms := by
  have h := holds_after changes
  refine ⟨fun id document => document?_isLastAddition, ⟨?_, ?_⟩, ?_⟩
  · intro hdistinct document hlive
    exact hdistinct document.id document ((h.document?_eq_some_iff _ _).mpr ⟨hlive, rfl⟩)
  · intro hdistinct id document hdocument
    exact hdistinct document ((h.document?_eq_some_iff id document).mp hdocument).1
  · intro slot entry hentry
    rw [h.sound.analyzed slot entry hentry]
    exact ⟨entry.document.nodup_terms_analyze, entry.document.terms_analyze_distinct⟩

/-- A tag that is given twice is returned twice. -/
theorem tags_repeated :
    ∃ page : Document, page = { Sample.page "p" "" "" with tags := ["a", "b", "a"] } ∧
      (after [.add page]).document? "p" = some page ∧ ¬ page.tags.Nodup := by
  refine ⟨_, rfl, ?_, by decide⟩
  rw [(holds_after _).document?_eq_some_iff]
  exact ⟨List.mem_singleton.mpr rfl, rfl⟩

end Index
end TextSearch
