import Mathlib.Algebra.Group.Nat.Defs
import TextSearch.Proofs.Query.Balance
import TextSearch.Proofs.Search.Finding
import TextSearch.Search.Outcome

/-!
# Facets in queries and tags in filters

Documents with given tags can be asked for in two ways: by a query of facets, which are looked up
among the terms of the index, and by a filter, which compares the tags of one document after the
other.  The two ways agree, whatever the tags hold: a tag between marks is read as it is, and a
facet is a term with a colon, which no word of a text has.

Main results:

- Theorem `parse_anyTag`: the facets of a list of tags are read as the balanced tree over them.
- Theorem `Document.tagFacet_mem_facets_iff`: which facets of tags a document is found under.
- Theorem `Document.tagFacet_not_mem_words`: no word is a facet.
- Theorem `Index.anyTag_agrees`: the query finds what the filter admits.
-/

namespace TextSearch

/-! ## The query of a list of tags -/

namespace Query

/-- The query of one tag. -/
def tagged (tag : String) : String :=
  "tag:" ++ quoted tag

/-- The query of a list of tags, one of which is wanted. -/
def anyTag (tags : List String) : String :=
  " OR ".intercalate (tags.map tagged)

/-- The leaf that the query of one tag stands for. -/
def tagLeaf (tag : String) : Query :=
  .field "tag" (.phrase tag)

end Query

/-- The derivation of the query of one tag. -/
def Derivation.ofTag (tag : String) : Derivation .primary :=
  .field "tag" (.phrase tag)

namespace Symbol

/-- The query of one tag is scanned as a field and a phrase, whatever the tag holds. -/
theorem scan_tagged (tag : String) (tail : List Char) :
    scan ((Query.tagged tag).toList ++ tail) = (Derivation.ofTag tag).symbols ++ scan tail := by
  have hname : IsName ['t', 'a', 'g'] :=
    ⟨⟨'t', rfl, by decide⟩, List.all_eq_true.mp (by decide)⟩
  have hspelled : (Query.tagged tag).toList ++ tail =
      ['t', 'a', 'g'] ++ ':' :: '"' :: (Query.protect tag.toList ++ '"' :: tail) := by
    simp [Query.tagged, Query.quoted]
  rw [hspelled, scan_field hname, scan_phrase, String.ofList_toList]
  rfl

end Symbol

/-- The facets of a list of tags are read as the balanced tree over them, without any fault. -/
theorem parse_anyTag {tags : List String} (hne : tags ≠ []) (hlength : tags.length ≤ 2 ^ 60) :
    parse (Query.anyTag tags) = ⟨Connective.or.balance (tags.map Query.tagLeaf), []⟩ := by
  obtain ⟨first, further, rfl⟩ := List.exists_cons_of_ne_nil hne
  have hleaf : ∀ tag, (Derivation.ofTag tag).tree = Query.tagLeaf tag :=
    fun tag => Run.tree_single _
  have htrees : (Derivation.ofTag first :: further.map .ofTag).map Derivation.tree =
      (first :: further).map Query.tagLeaf := by
    rw [← List.map_cons, List.map_map]
    exact List.map_congr_left fun tag _ => hleaf tag
  rw [← htrees]
  apply @parse_of_row _ .or
  · exact Symbol.scan_row .or Query.tagged .ofTag first further
      fun tag _ tail _ => Symbol.scan_tagged tag tail
  · simp [Derivation.ofTag, Derivation.unclosedGroups]
  · simp [Derivation.ofTag, Derivation.nesting]
  · simp [hleaf, Query.tagLeaf, Connective.implied]
  · have hheight : ∀ operand ∈ (first :: further).map Query.tagLeaf, operand.height = 2 := by
      simp [Query.tagLeaf, Query.height]
    have hhalves : Nat.clog 2 ((first :: further).map Query.tagLeaf).length ≤ 60 := by
      rw [List.length_map]
      exact Nat.clog_le_of_le_pow hlength
    rw [htrees, Connective.height_balance _ hheight (by simp), heightLimit]
    omega

/-! ## Facets of a document -/

namespace Document

/-- A document is found under the facet of a tag if one of its tags is this tag, apart from case. -/
theorem tagFacet_mem_facets_iff {document : Document} {wanted : String} (h : wanted ≠ "") :
    tagFacet wanted ∈ document.facets ↔
      ∃ tag ∈ document.tags, Text.lowercase tag = Text.lowercase wanted := by
  have hkind : tagFacet wanted ≠ kindFacet document.kind.name := by
    intro heq
    have hchars := congrArg String.toList heq
    simp [tagFacet, kindFacet] at hchars
  have hfacet : ∀ tag, tagFacet tag = tagFacet wanted ↔
      Text.lowercase tag = Text.lowercase wanted :=
    fun tag => String.append_right_inj "tag:"
  -- An empty tag has no facet, and it is no wanted tag either.
  have hempty : ∀ tag, Text.lowercase tag = Text.lowercase wanted → tag ≠ "" := by
    rintro tag heq rfl
    rw [Text.lowercase_empty] at heq
    exact Text.lowercase_ne_empty h heq.symm
  rw [facets, List.mem_append, List.mem_singleton, or_iff_left hkind, tagFacets, List.mem_map]
  constructor
  · rintro ⟨tag, hmem, heq⟩
    exact ⟨tag, (List.mem_filter.mp hmem).1, (hfacet tag).mp heq⟩
  · rintro ⟨tag, hmem, heq⟩
    exact ⟨tag, List.mem_filter.mpr ⟨hmem, by simpa using hempty tag heq⟩, (hfacet tag).mpr heq⟩

/-- No word of a title or a body is the facet of a tag: facets have a colon. -/
theorem tagFacet_not_mem_words (document : Document) (tag : String) :
    tagFacet tag ∉ document.words := by
  intro hmem
  exact colon_not_mem_of_mem_words hmem (by simp [tagFacet])

/-- A document satisfies the query of one tag if one of its tags is this tag, apart from case. -/
theorem satisfiedBy_tagLeaf_iff {document : Document} {wanted : String} (h : wanted ≠ "") :
    (Query.tagLeaf wanted).satisfiedBy document.analyze.terms = true ↔
      ∃ tag ∈ document.tags, Text.lowercase tag = Text.lowercase wanted := by
  have hfacet : Text.lowercase "tag" ++ ":" ++ Text.lowercase wanted = tagFacet wanted := by
    rw [tagFacet, show Text.lowercase "tag" ++ ":" = "tag:" by decide]
  rw [Query.tagLeaf, Query.satisfiedBy, Query.facetSatisfiedBy, List.contains_iff_mem, hfacet,
    mem_terms_analyze, or_iff_right (document.tagFacet_not_mem_words wanted),
    tagFacet_mem_facets_iff h]

end Document

/-! ## Agreement -/

namespace Filters

/-- A filter by nothing but tags. -/
def byTags (tags : List String) : Filters :=
  { unrestricted with tags := tags }

/-- A filter by nothing but tags admits the documents with one of them, apart from case. -/
theorem admits_byTags_iff {tags : List String} (hne : tags ≠ []) (document : Document) :
    (byTags tags).admits document = true ↔
      ∃ wanted ∈ tags, ∃ tag ∈ document.tags, Text.lowercase tag = Text.lowercase wanted := by
  have hkinds : KindSet.empty.isEmpty = true := rfl
  have hothers : (byTags tags).admits document = (byTags tags).admitsTags document := by
    simp [byTags, admits, admitsKind, admitsCreation, admitsAuthor, admitsPath, unrestricted,
      hkinds]
  have hsome : ¬ (byTags tags).tags.isEmpty = true := by
    simpa [byTags] using hne
  rw [hothers, admitsTags, Bool.or_eq_true, or_iff_right hsome]
  simp [byTags]

end Filters

namespace Index

/-- The query of a list of tags is read without any fault and finds the live documents that a filter
by these tags admits: those with one of the tags, apart from case.  What the documents say in their
titles and bodies does not matter, as no word is the facet of a tag. -/
theorem anyTag_agrees (changes : List Change) {tags : List String} (hne : tags ≠ [])
    (htags : ∀ tag ∈ tags, tag ≠ "") (hlength : tags.length ≤ 2 ^ 60) :
    (parse (Query.anyTag tags)).errors = [] ∧
      (∀ slot, slot ∈ (after changes).evaluate (parse (Query.anyTag tags)).tree ↔
        ∃ entry, (after changes).entryAt? slot = some entry ∧
          (Filters.byTags tags).admits entry.document = true) ∧
      (∀ document : Document,
        (Filters.byTags tags).admits document = true ↔
          ∃ wanted ∈ tags, ∃ tag ∈ document.tags, Text.lowercase tag = Text.lowercase wanted) ∧
      ∀ document : Document, ∀ wanted ∈ tags, tagFacet wanted ∉ document.words := by
  rw [parse_anyTag hne hlength]
  refine ⟨rfl, fun slot => ?_, Filters.admits_byTags_iff hne,
    fun document wanted _ => document.tagFacet_not_mem_words wanted⟩
  have hleaf : ∀ wanted ∈ tags, (slot ∈ (after changes).evaluate (Query.tagLeaf wanted) ↔
      ∃ entry, (after changes).entryAt? slot = some entry ∧
        ∃ tag ∈ entry.document.tags, Text.lowercase tag = Text.lowercase wanted) := by
    intro wanted hmem
    rw [mem_evaluate_after_iff]
    simp only [Document.satisfiedBy_tagLeaf_iff (htags wanted hmem)]
  rw [Connective.mem_evaluate_balance _ (by simpa using hne)]
  simp only [Filters.admits_byTags_iff hne, Connective.Finds, List.mem_map]
  constructor
  · rintro ⟨_, ⟨wanted, hwanted, rfl⟩, hslot⟩
    obtain ⟨entry, hentry, htag⟩ := (hleaf wanted hwanted).mp hslot
    exact ⟨entry, hentry, wanted, hwanted, htag⟩
  · rintro ⟨entry, hentry, wanted, hwanted, htag⟩
    exact ⟨_, ⟨wanted, hwanted, rfl⟩, (hleaf wanted hwanted).mpr ⟨entry, hentry, htag⟩⟩

/-- A page whose tag has marks, an operator, a colon and capitals is found by its tag in other case,
in whatever words its title is written. -/
theorem anyTag_agrees_marks :
    ∃ page slot, page = { Sample.page "p" "Notes" "" with tags := ["Say \"HI\" OR a:b"] } ∧
      Query.anyTag ["c\\d", "say \"hi\" or A:B"] =
        "tag:\"c\\\\d\" OR tag:\"say \\\"hi\\\" or A:B\"" ∧
      (parse "tag:\"c\\\\d\" OR tag:\"say \\\"hi\\\" or A:B\"").errors = [] ∧
      (after [.add page]).entryAt? slot = some page.analyze ∧
      slot ∈ (after [.add page]).evaluate
        (parse "tag:\"c\\\\d\" OR tag:\"say \\\"hi\\\" or A:B\"").tree := by
  obtain ⟨page, hpage⟩ : ∃ page, page =
      { Sample.page "p" "Notes" "" with tags := ["Say \"HI\" OR a:b"] } := ⟨_, rfl⟩
  have hspelled : Query.anyTag ["c\\d", "say \"hi\" or A:B"] =
      "tag:\"c\\\\d\" OR tag:\"say \\\"hi\\\" or A:B\"" := by
    decide +kernel
  obtain ⟨herrors, hfinds, hadmits, -⟩ := anyTag_agrees [.add page]
    (by decide : ["c\\d", "say \"hi\" or A:B"] ≠ []) (by decide) (by decide)
  rw [hspelled] at herrors hfinds
  have hlive : (after [.add page]).document? "p" = some page := by
    rw [(holds_after _).document?_eq_some_iff, hpage]
    exact ⟨List.mem_cons_self, rfl⟩
  obtain ⟨slot, -, hentry⟩ := (sound_after _).exists_slot_of_document? hlive
  have htag := (hadmits page).mpr
    ⟨"say \"hi\" or A:B", by simp, "Say \"HI\" OR a:b", by simp [hpage], by decide +kernel⟩
  exact ⟨page, slot, hpage, hspelled, herrors, hentry, (hfinds slot).mpr ⟨_, hentry, htag⟩⟩

end Index
end TextSearch
