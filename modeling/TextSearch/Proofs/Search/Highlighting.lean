import TextSearch.Sample
import TextSearch.Proofs.Text.Folding
import TextSearch.Proofs.Text.Occurrences
import TextSearch.Search.Excerpt

/-!
# Matched fields and excerpts

A result tells in which fields the terms of the query occur, and shows excerpts around the
occurrences.  The first looks for the terms in the lower-case text, the second in the text folded
character by character.  Where the two texts differ, so do the answers: a term with the final form
of sigma is found in the lower-case text only, and the letters of `İ` are joined in the folded text
only.

Main results:

- Theorem `Document.highlighted_iff`: which fields have excerpts.
- Theorem `Document.mem_matchedFields_iff`: in which fields a term occurs.
- Theorem `Document.highlighted_iff_matched`: where the two agree.
- Theorem `Document.highlighted_ne_matched`: where they do not.
-/

namespace TextSearch

/-! ## Excerpts of one field -/

namespace Excerpt

/-- The terms looked for are those with letters that the automaton has room for. -/
theorem mem_searchable_iff {terms : List String} {term : List Char} :
    term ∈ searchable terms ↔
      ∃ word ∈ terms, word.toList = term ∧ term ≠ [] ∧ AutomatonSize.canLookFor term = true := by
  simp only [searchable, List.mem_filter, List.mem_map, Bool.and_eq_true, Bool.not_eq_true',
    List.isEmpty_eq_false_iff]
  constructor
  · rintro ⟨⟨word, hword, heq⟩, hterm⟩
    exact ⟨word, hword, heq, hterm⟩
  · rintro ⟨word, hword, heq, hterm⟩
    exact ⟨⟨word, hword, heq⟩, hterm⟩

theorem ne_nil_of_mem_searchable {terms : List String} :
    ∀ term ∈ searchable terms, term ≠ [] := by
  intro term hterm
  obtain ⟨_, _, _, hne, _⟩ := mem_searchable_iff.mp hterm
  exact hne

/-- There are occurrences exactly if one of the terms, when it is folded, stands in the text. -/
theorem occurrences_ne_nil_iff {terms : List (List Char)} {folded : List Char}
    (h : ∀ term ∈ terms, term ≠ []) :
    occurrences terms folded ≠ [] ↔ ∃ term ∈ terms, Text.foldChars term <:+: folded := by
  have hstarts : ∀ term ∈ terms,
      (Text.starts (· == ·) (Text.foldChars term) folded ≠ [] ↔
        Text.foldChars term <:+: folded) :=
    fun term hmem => Text.starts_ne_nil_iff (Text.foldChars_ne_nil (h term hmem))
  rw [occurrences, Ne, List.flatMap_eq_nil_iff, not_forall]
  simp only [List.map_eq_nil_iff, Classical.not_imp]
  exact exists_congr fun term => and_congr_right fun hmem => hstarts term hmem

/-- A field has no excerpts exactly if none may be shown or there is no occurrence. -/
theorem ofField_eq_none_iff {options : Options} {terms : List (List Char)} (field : MatchField)
    {text : String} :
    ofField options terms field text = none ↔
      options.maxFragments = 0 ∨ occurrences terms (Text.foldChars text.toList) = [] := by
  rw [ofField]
  simp only [List.isEmpty_iff, List.take_eq_nil_iff]
  split
  · rename_i hnone
    simpa using hnone
  · rename_i hsome
    simpa using hsome

/-- If excerpts may be shown, a field has some exactly if there is an occurrence. -/
theorem ofField_isSome_iff {options : Options} (hshown : 1 ≤ options.maxFragments)
    {terms : List (List Char)} (field : MatchField) {text : String} :
    (ofField options terms field text).isSome = true ↔
      occurrences terms (Text.foldChars text.toList) ≠ [] := by
  rw [Option.isSome_iff_ne_none, Ne, ofField_eq_none_iff, or_iff_right (by omega)]

/-- The excerpts of a field are made of the first occurrences in its text. -/
theorem of_ofField {options : Options} {terms : List (List Char)} {field : MatchField}
    {text : String} {highlight : Highlight}
    (h : ofField options terms field text = some highlight) :
    highlight = ⟨field,
      ((occurrences terms (Text.foldChars text.toList)).take options.maxFragments).map
        fun (term, start) => fragment options text.toList.toArray term start,
      text⟩ := by
  rw [ofField] at h
  simp only [Option.ite_none_left_eq_some, Option.some.injEq] at h
  exact h.2.symm

/-- A highlight is about the field it was made for. -/
theorem field_of_ofField {options : Options} {terms : List (List Char)} {field : MatchField}
    {text : String} {highlight : Highlight}
    (h : ofField options terms field text = some highlight) : highlight.field = field := by
  rw [of_ofField h]

end Excerpt

/-! ## Fields of a document -/

namespace Document

/-- The text in which occurrences are looked for; a tag is matched as a whole or not at all. -/
def textOf? (document : Document) : MatchField → Option String
  | .title => some document.title
  | .body => some document.body
  | .tags => none

/-- There are excerpts of the field. -/
def Highlighted (document : Document) (options : Options) (terms : List String)
    (field : MatchField) : Prop :=
  ∃ highlight ∈ document.highlights options terms, highlight.field = field

variable {document : Document} {field : MatchField} {text : String}

/-- The two fields that are highlighted, each with its text. -/
theorem mem_fields_iff :
    (field, text) ∈ [(MatchField.title, document.title), (MatchField.body, document.body)] ↔
      document.textOf? field = some text := by
  cases field <;> simp [textOf?, eq_comm]

/-- The excerpts of a field with a text are those that are made of this text. -/
theorem mem_highlights_iff (htext : document.textOf? field = some text) (options : Options)
    (terms : List String) (highlight : Highlight) :
    highlight ∈ document.highlights options terms ∧ highlight.field = field ↔
      Excerpt.ofField options (Excerpt.searchable terms) field text = some highlight := by
  simp only [highlights, List.mem_filterMap, Prod.exists]
  constructor
  · rintro ⟨⟨place, other, hmem, hhighlight⟩, hfield⟩
    have hplace := Excerpt.field_of_ofField hhighlight
    rw [mem_fields_iff, ← hplace, hfield, htext, Option.some.injEq] at hmem
    rw [← hplace, hfield, ← hmem] at hhighlight
    exact hhighlight
  · intro hhighlight
    exact ⟨⟨field, text, mem_fields_iff.mpr htext, hhighlight⟩,
      Excerpt.field_of_ofField hhighlight⟩

/-- A field is highlighted exactly when there is a highlight to make for its text. -/
theorem highlighted_iff_isSome (htext : document.textOf? field = some text) (options : Options)
    (terms : List String) :
    document.Highlighted options terms field ↔
      (Excerpt.ofField options (Excerpt.searchable terms) field text).isSome = true := by
  rw [Highlighted, Option.isSome_iff_exists]
  exact exists_congr fun highlight => mem_highlights_iff htext options terms highlight

/-- A field with a text has excerpts exactly if one of the terms that can be looked for stands in
the folded text, when it is folded itself. -/
theorem highlighted_iff (htext : document.textOf? field = some text) {options : Options}
    (hshown : 1 ≤ options.maxFragments) (terms : List String) :
    document.Highlighted options terms field ↔
      ∃ term ∈ terms, term.toList ≠ [] ∧ AutomatonSize.canLookFor term.toList = true ∧
        Text.foldChars term.toList <:+: Text.foldChars text.toList := by
  rw [highlighted_iff_isSome htext, Excerpt.ofField_isSome_iff hshown,
    Excerpt.occurrences_ne_nil_iff Excerpt.ne_nil_of_mem_searchable]
  simp only [Excerpt.mem_searchable_iff]
  constructor
  · rintro ⟨_, ⟨term, hmem, rfl, hne, hlook⟩, hstands⟩
    exact ⟨term, hmem, hne, hlook, hstands⟩
  · rintro ⟨term, hmem, hne, hlook, hstands⟩
    exact ⟨_, ⟨term, hmem, rfl, hne, hlook⟩, hstands⟩

/-- One of the terms occurs in a field with a text exactly if it stands in the lower-case text. -/
theorem mem_matchedFields_iff (htext : document.textOf? field = some text)
    (terms : List String) :
    field ∈ document.matchedFields terms ↔
      ∃ term ∈ terms, term.toList <:+: (Text.lowercase text).toList := by
  rw [matchedFields, List.mem_filter]
  cases field with
  | title =>
    rw [← Option.some.inj htext]
    simp [MatchField.all, MatchField.hasTerm, Text.contains_iff_infix]
  | body =>
    rw [← Option.some.inj htext]
    simp [MatchField.all, MatchField.hasTerm, Text.contains_iff_infix]
  | tags => contradiction

/-! ## Terms of a query -/

/-- A term of a query has characters, folding leaves it as it is, and no dot is combined in it. -/
theorem of_mem_terms {query term : String} (h : term ∈ Text.terms query) :
    term.toList ≠ [] ∧ Text.foldChars term.toList = term.toList ∧ '\u0307' ∉ term.toList := by
  refine ⟨?_, Text.foldChars_of_mem_terms h, fun hdot => ?_⟩
  · rcases List.mem_map.mp h with ⟨run, hrun, rfl⟩
    rw [String.toList_ofList]
    exact Text.ne_nil_of_mem_runs hrun
  · have halphanumeric := Text.isAlphanumeric_of_mem_terms h _ hdot
    exact absurd halphanumeric (by decide)

/-- The terms of a query that can be looked for are shown in excerpts of a field exactly if one of
them stands in its folded text, and they are found in the field exactly if one of them stands in its
lower-case text.  Where no word of the field ends in a capital sigma, a field in which they are
found has excerpts; and if it does not hold `İ` either, only such a field has. -/
theorem highlighted_iff_matched (htext : document.textOf? field = some text) {options : Options}
    (hshown : 1 ≤ options.maxFragments) {query : String}
    (hlook : ∀ term ∈ Text.terms query, AutomatonSize.canLookFor term.toList = true)
    {terms : List String} (hterms : terms = Text.distinct (Text.terms query)) :
    (document.Highlighted options terms field ↔
        ∃ term ∈ terms, term.toList <:+: Text.foldChars text.toList) ∧
      (field ∈ document.matchedFields terms ↔
        ∃ term ∈ terms, term.toList <:+: (Text.lowercase text).toList) ∧
      (¬ Text.HasFinalSigma text.toList →
        field ∈ document.matchedFields terms → document.Highlighted options terms field) ∧
      (¬ Text.HasFinalSigma text.toList → 'İ' ∉ text.toList →
        (document.Highlighted options terms field ↔ field ∈ document.matchedFields terms)) := by
  have hmem : ∀ term ∈ terms, term ∈ Text.terms query := by
    intro term hterm
    rw [hterms, Text.distinct, List.mem_eraseDups] at hterm
    exact hterm
  have hshows : document.Highlighted options terms field ↔
      ∃ term ∈ terms, term.toList <:+: Text.foldChars text.toList := by
    rw [highlighted_iff htext hshown]
    refine exists_congr fun term => and_congr_right fun hterm => ?_
    obtain ⟨hne, hfold, -⟩ := of_mem_terms (hmem term hterm)
    rw [hfold]
    exact ⟨fun h => h.2.2, fun h => ⟨hne, hlook term (hmem term hterm), h⟩⟩
  have hfinds := mem_matchedFields_iff htext terms
  refine ⟨hshows, hfinds, fun hsigma => ?_, fun hsigma hdotted => ?_⟩
  · rw [hshows, hfinds, Text.toList_lowercase, Text.lowerFrom_eq_flatMap hsigma]
    rintro ⟨term, hterm, hstands⟩
    obtain ⟨hne, -, hdot⟩ := of_mem_terms (hmem term hterm)
    exact ⟨term, hterm, Text.infix_foldChars hne hdot hstands⟩
  · rw [hshows, hfinds, Text.toList_lowercase, Text.lowerFrom_eq_flatMap hsigma,
      Text.flatMap_lowerChar hdotted]

/-- A capital sigma that begins a word does not matter: the title has excerpts, and a term occurs in
it. -/
theorem highlighted_iff_matched_initial :
    ∃ page terms, page = Sample.page "p" "ΣΟΦΙΑ, Istanbul" "" ∧
      terms = Text.distinct (Text.terms "Σοφια") ∧
      ¬ Text.HasFinalSigma page.title.toList ∧ 'İ' ∉ page.title.toList ∧
      page.Highlighted .standard terms .title ∧ .title ∈ page.matchedFields terms := by
  obtain ⟨page, hpage⟩ : ∃ page, page = Sample.page "p" "ΣΟΦΙΑ, Istanbul" "" := ⟨_, rfl⟩
  have hterms : Text.terms "Σοφια" = ["σοφια"] := by
    decide +kernel
  have hlook : ∀ term ∈ Text.terms "Σοφια", AutomatonSize.canLookFor term.toList = true := by
    unfold AutomatonSize.canLookFor AutomatonSize.ofLetter AutomatonSize.formSequences
    rw [hterms, Text.caseForms_eq]
    decide +kernel
  have htitle : page.title = "ΣΟΦΙΑ, Istanbul" := by
    rw [hpage]
    rfl
  have hsigma : ¬ Text.HasFinalSigma page.title.toList := by
    rw [htitle]
    decide +kernel
  have hdotted : 'İ' ∉ page.title.toList := by
    rw [htitle]
    decide +kernel
  have hstands : "σοφια".toList <:+: (Text.lowercase page.title).toList := by
    rw [htitle]
    decide +kernel
  obtain ⟨-, hfinds, hshows, -⟩ := highlighted_iff_matched
    (rfl : page.textOf? .title = some page.title)
    (by decide : 1 ≤ Options.standard.maxFragments) hlook rfl
  have hmatched := hfinds.mpr
    ⟨"σοφια", by rw [hterms, Text.distinct, List.mem_eraseDups]; exact List.mem_cons_self, hstands⟩
  exact ⟨page, _, hpage, rfl, hsigma, hdotted, hshows hsigma hmatched, hmatched⟩

/-- The title is searched for as it is written, but its last letter has two lower-case forms; and
the body holds a term in its folded form only. -/
theorem highlighted_ne_matched :
    ∃ page terms, page = Sample.page "p" "ΟΔΟΣ" "İzmir" ∧
      terms = Text.distinct (Text.terms "ΟΔΟΣ izmir") ∧
      (∀ term ∈ terms, AutomatonSize.canLookFor term.toList = true) ∧
      .title ∈ page.matchedFields terms ∧ ¬ page.Highlighted .standard terms .title ∧
      .body ∉ page.matchedFields terms ∧ page.Highlighted .standard terms .body := by
  obtain ⟨page, hpage⟩ : ∃ page, page = Sample.page "p" "ΟΔΟΣ" "İzmir" := ⟨_, rfl⟩
  have htitle : page.textOf? .title = some "ΟΔΟΣ" := by
    rw [hpage]
    rfl
  have hbody : page.textOf? .body = some "İzmir" := by
    rw [hpage]
    rfl
  have hterms : Text.distinct (Text.terms "ΟΔΟΣ izmir") = ["οδος", "izmir"] := by
    decide +kernel
  have hlook : ∀ term ∈ ["οδος", "izmir"], AutomatonSize.canLookFor term.toList = true := by
    unfold AutomatonSize.canLookFor AutomatonSize.ofLetter AutomatonSize.formSequences
    rw [Text.caseForms_eq]
    decide +kernel
  have hshown : 1 ≤ Options.standard.maxFragments := by
    decide
  have hinTitle : ∃ term ∈ ["οδος", "izmir"], term.toList <:+: (Text.lowercase "ΟΔΟΣ").toList := by
    decide +kernel
  have hnotTitle : ∀ term ∈ ["οδος", "izmir"],
      ¬ Text.foldChars term.toList <:+: Text.foldChars "ΟΔΟΣ".toList := by
    decide +kernel
  have hnotBody : ∀ term ∈ ["οδος", "izmir"],
      ¬ term.toList <:+: (Text.lowercase "İzmir").toList := by
    decide +kernel
  have hinBody : "izmir".toList ≠ [] ∧
      Text.foldChars "izmir".toList <:+: Text.foldChars "İzmir".toList := by
    decide +kernel
  refine ⟨page, _, hpage, hterms.symm, hlook, ?_, ?_, ?_, ?_⟩
  · rw [mem_matchedFields_iff htitle]
    exact hinTitle
  · rw [highlighted_iff htitle hshown]
    rintro ⟨term, hterm, -, -, hstands⟩
    exact hnotTitle term hterm hstands
  · rw [mem_matchedFields_iff hbody]
    rintro ⟨term, hterm, hstands⟩
    exact hnotBody term hterm hstands
  · rw [highlighted_iff hbody hshown]
    exact ⟨"izmir", by simp, hinBody.1, hlook "izmir" (by simp), hinBody.2⟩

end Document
end TextSearch
