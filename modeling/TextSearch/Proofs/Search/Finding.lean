import TextSearch.Sample
import TextSearch.Proofs.Engine.Rebuilding
import TextSearch.Proofs.Index.Vocabulary
import TextSearch.Proofs.Query.Rereading

/-!
# Finding a document by a piece of its text

A piece of the title or of the body of a live document is copied into a query.  Between marks it is
read as a phrase, and phrases go through the same rule as documents: the document is found.  A word
alone is read as a term, and terms do not go through this rule: they are looked up in lower case as
they stand.  So a word with anything in it but letters and digits does not find its document.

Main results:

- Theorem `parse_quoted`: a piece of text between marks is read as a phrase, whatever it holds.
- Theorem `phrase_of_piece_finds`: the phrase finds the document.
- Theorem `word_finds_iff`: which words find the document.
-/

namespace TextSearch

namespace Query

/-- The text of a phrase: a piece of text between marks, with its own marks and its backslashes
protected. -/
def quoted (piece : String) : String :=
  "\"" ++ .ofList (protect piece.toList) ++ "\""

/-- The canonical text of a phrase is the quoted piece. -/
theorem canonical_phrase (piece : String) : (phrase piece).canonical = quoted piece := by
  rw [canonical, quoted]

end Query

/-- A piece of text between marks is read as a phrase, whatever it holds. -/
theorem parse_quoted (piece : String) : parse (Query.quoted piece) = ⟨.phrase piece, []⟩ := by
  have hspelled : (Symbol.phrase piece).Spelled := trivial
  have hlegible : (Query.phrase piece).Legible := .leaf hspelled rfl
  rw [← Query.canonical_phrase]
  exact parse_canonical hlegible rfl (by simp [Query.height, heightLimit])

/-- A query that is one term can be spelled so. -/
theorem spelled_of_tokens {query : String}
    (h : (tokens query).map Token.symbol = [.term query]) :
    (Symbol.term query).Spelled := by
  have hmem : .term query ∈ Symbol.scan query.toList := by
    rw [← map_symbol_tokens, h]
    exact List.mem_cons_self
  exact Symbol.spelled_of_mem_scan hmem

/-- A query that is one term is read as this term. -/
theorem parse_of_tokens {query : String} (h : (tokens query).map Token.symbol = [.term query]) :
    parse query = ⟨.term query, []⟩ := by
  have hlegible : (Query.term query).Legible := .leaf (spelled_of_tokens h) rfl
  exact parse_canonical hlegible rfl (by simp [Query.height, heightLimit])

namespace Symbol.IsWord

variable {word : String} (h : IsWord word.toList)
include h

/-- A word is not empty, and neither is its lower-case form. -/
theorem lowercase_ne_nil : (Text.lowercase word).toList ≠ [] := by
  rcases h.start with ⟨c, hc, -⟩
  have hword : word ≠ "" := by
    rintro rfl
    contradiction
  exact fun hnil => Text.lowercase_ne_empty hword (String.toList_inj.mp hnil)

/-- The lower-case form of a word is no facet: the word would have been read as a field. -/
theorem lowercase_not_mem_facets (document : Document) :
    Text.lowercase word ∉ document.facets := by
  intro hfacet
  rcases Document.exists_stem_of_mem_facets hfacet with ⟨stem, rest, hsplit, hne, hstem⟩
  rw [Text.toList_lowercase] at hsplit
  rcases Text.exists_split_of_lowerFrom hsplit hstem with ⟨name, behind, hword, hlength, hname⟩
  have hfield : fieldName? word.toList = some name := by
    refine (fieldName?_eq_some_iff _ _).mpr ⟨⟨?_, ?_⟩, behind, hword⟩
    · cases name with
      | nil => exact absurd (List.length_eq_zero_iff.mp hlength.symm) hne
      | cons c name => exact ⟨c, rfl, by simp [isNameStart, hname c List.mem_cons_self]⟩
    · intro c hc
      simp [isNamePart, Text.isAlphanumeric, hname c hc]
  rw [h.not_field] at hfield
  contradiction

end Symbol.IsWord

namespace Index.Sound

variable {index : Index} {document : Document}

/-- A live document is in a slot, under all terms to which it is analysed. -/
theorem exists_slot_of_document? (h : index.Sound) {id : String}
    (hlive : index.document? id = some document) :
    ∃ slot, index.slotOf? id = some slot ∧ index.entryAt? slot = some document.analyze := by
  rcases Option.bind_eq_some_iff.mp hlive with ⟨slot, hslot, hdocument⟩
  rcases Option.map_eq_some_iff.mp hdocument with ⟨entry, hentry, rfl⟩
  rw [← h.analyzed slot entry hentry]
  exact ⟨slot, hslot, hentry⟩

/-- A phrase with words finds the live documents that have all of them. -/
theorem mem_evaluate_phrase (h : index.Sound) {slot : Slot}
    (hentry : index.entryAt? slot = some document.analyze) {value : String}
    (hne : Text.terms value ≠ []) (hwords : ∀ word ∈ Text.terms value, word ∈ document.words) :
    slot ∈ index.evaluate (.phrase value) := by
  rw [h.mem_evaluate_iff_satisfiedBy hentry, Query.satisfiedBy, Bool.and_eq_true]
  constructor
  · simpa using hne
  · rw [List.all_eq_true]
    intro word hword
    rw [List.contains_iff_mem, Document.mem_terms_analyze]
    exact .inl (hwords word hword)

/-- A word finds the live document in which it stands if its lower-case form is letters and digits
throughout, and only then: otherwise the document is under the pieces of the word alone. -/
theorem mem_evaluate_word_iff (h : index.Sound) {slot : Slot}
    (hentry : index.entryAt? slot = some document.analyze) {word : String}
    (hword : Symbol.IsWord word.toList)
    (hpiece : Text.StandsIn Text.isBlank word document.title ∨
      Text.StandsIn Text.isBlank word document.body) :
    slot ∈ index.evaluate (.term word) ↔
      ∀ c ∈ (Text.lowercase word).toList, Text.isAlphanumeric c = true := by
  rw [h.mem_evaluate_iff_satisfiedBy hentry, Query.satisfiedBy, List.contains_iff_mem,
    Document.mem_terms_analyze]
  constructor
  · rintro (hwords | hfacet)
    · exact Text.isAlphanumeric_of_mem_terms hwords
    · exact absurd hfacet (hword.lowercase_not_mem_facets document)
  · intro hall
    refine .inl (Document.mem_words_of_standsIn (fun _ hc => hc) hpiece ?_)
    rw [Text.terms_of_isAlphanumeric hword.lowercase_ne_nil hall]
    exact List.mem_cons_self

end Index.Sound

namespace Engine

/-- The live documents of an engine are the survivors of its history. -/
theorem document?_after_eq_some_iff (defaults : Options) (changes : List Change) (id : String)
    (document : Document) :
    (after defaults changes).document? id = some document ↔
      document ∈ survivors changes ∧ document.id = id := by
  rw [after_eq]
  exact (Index.holds_after changes).document?_eq_some_iff id document

/-- A document that was just added is live. -/
theorem document?_after_append_add (defaults : Options) (changes : List Change)
    (document : Document) (h : document.isAddressable = true) :
    (after defaults (changes ++ [.add document])).document? document.id = some document := by
  rw [document?_after_eq_some_iff, survivors, List.foldl_append, List.foldl_cons, List.foldl_nil,
    Change.survive, if_pos h, Document.putLast]
  exact ⟨List.mem_append_right _ List.mem_cons_self, rfl⟩

/-- The index behind an engine is sound after every history. -/
theorem sound_index_after (defaults : Options) (changes : List Change) :
    (after defaults changes).index.Sound := by
  rw [after_eq]
  exact Index.sound_after changes

/-- A piece of a title or a body between spaces, put between marks, is read as a phrase without
any fault; and if the piece has words, the phrase finds the document. -/
theorem phrase_of_piece_finds (defaults : Options) (changes : List Change) {document : Document}
    (hlive : (after defaults changes).document? document.id = some document) {piece : String}
    (hpiece : Text.StandsIn (· == ' ') piece document.title ∨
      Text.StandsIn (· == ' ') piece document.body)
    (hwords : Text.terms piece ≠ []) :
    parse (Query.quoted piece) = ⟨.phrase piece, []⟩ ∧
      ∃ slot, (after defaults changes).index.slotOf? document.id = some slot ∧
        slot ∈ (after defaults changes).index.evaluate (parse (Query.quoted piece)).tree := by
  have hsound := sound_index_after defaults changes
  rcases hsound.exists_slot_of_document? hlive with ⟨slot, hslot, hentry⟩
  refine ⟨parse_quoted piece, slot, hslot, ?_⟩
  rw [parse_quoted]
  refine hsound.mem_evaluate_phrase hentry hwords fun word hword => ?_
  refine Document.mem_words_of_standsIn (fun c hc => ?_) hpiece hword
  rw [beq_iff_eq] at hc
  subst hc
  rfl

/-- A piece with marks, a backslash, an operator and a capital sigma at the end of a word. -/
theorem phrase_of_piece_finds_marks :
    ∃ page, page = Sample.page "p" "Notes" "see \"ΟΔΟΣ\\(1) OR\" twice" ∧
      parse "\"\\\"ΟΔΟΣ\\\\(1) OR\\\"\"" = ⟨.phrase "\"ΟΔΟΣ\\(1) OR\"", []⟩ ∧
      ∃ slot, (after default [.add page]).index.slotOf? "p" = some slot ∧
        slot ∈ (after default [.add page]).index.evaluate
          (parse "\"\\\"ΟΔΟΣ\\\\(1) OR\\\"\"").tree := by
  refine ⟨_, rfl, ?_⟩
  have hquoted : Query.quoted "\"ΟΔΟΣ\\(1) OR\"" = "\"\\\"ΟΔΟΣ\\\\(1) OR\\\"\"" := by
    decide +kernel
  rw [← hquoted]
  refine phrase_of_piece_finds default _
    (document?_after_append_add default [] _ (by decide +kernel)) (.inr ?_) (by decide +kernel)
  exact ⟨"see ".toList, " twice".toList, by decide +kernel, by decide +kernel, by decide +kernel⟩

/-- A piece of a title or a body between blanks that is one term by itself is read as this term.  It
finds the document if its lower-case form is letters and digits throughout, and does not find it
otherwise, because the document is under the runs of letters and digits alone. -/
theorem word_finds_iff (defaults : Options) (changes : List Change) {document : Document}
    (hlive : (after defaults changes).document? document.id = some document) {word : String}
    (hpiece : Text.StandsIn Text.isBlank word document.title ∨
      Text.StandsIn Text.isBlank word document.body)
    (hterm : (tokens word).map Token.symbol = [.term word]) :
    parse word = ⟨.term word, []⟩ ∧
      ∃ slot, (after defaults changes).index.slotOf? document.id = some slot ∧
        (slot ∈ (after defaults changes).index.evaluate (parse word).tree ↔
          ∀ c ∈ (Text.lowercase word).toList, Text.isAlphanumeric c = true) := by
  have hsound := sound_index_after defaults changes
  rcases hsound.exists_slot_of_document? hlive with ⟨slot, hslot, hentry⟩
  refine ⟨parse_of_tokens hterm, slot, hslot, ?_⟩
  rw [parse_of_tokens hterm]
  exact hsound.mem_evaluate_word_iff hentry (spelled_of_tokens hterm).1 hpiece

/-- A word with a letter outside ASCII and a capital finds its page. -/
theorem word_finds_name :
    ∃ page slot, page = Sample.page "p" "Kurt Gödel" "" ∧
      (after default [.add page]).index.slotOf? "p" = some slot ∧
      slot ∈ (after default [.add page]).index.evaluate (parse "Gödel").tree := by
  have hlive := document?_after_append_add default [] (Sample.page "p" "Kurt Gödel" "")
    (by decide +kernel)
  have hpiece : Text.StandsIn Text.isBlank "Gödel" "Kurt Gödel" :=
    ⟨"Kurt ".toList, [], by decide +kernel, by decide +kernel, by decide +kernel⟩
  obtain ⟨-, slot, hslot, hfinds⟩ := word_finds_iff default _ hlive (.inl hpiece)
    (by decide +kernel)
  exact ⟨_, slot, rfl, hslot, hfinds.mpr (List.all_eq_true.mp (by decide +kernel))⟩

/-- A word with a hyphen is one term by itself, and does not find the page in which it stands. -/
theorem word_loses_hyphen :
    ∃ page slot, page = Sample.page "p" "" "deep-learning" ∧
      (after default [.add page]).document? page.id = some page ∧
      Text.StandsIn Text.isBlank "deep-learning" page.body ∧
      (tokens "deep-learning").map Token.symbol = [.term "deep-learning"] ∧
      (after default [.add page]).index.slotOf? page.id = some slot ∧
      slot ∉ (after default [.add page]).index.evaluate (parse "deep-learning").tree := by
  have hlive := document?_after_append_add default [] (Sample.page "p" "" "deep-learning")
    (by decide +kernel)
  have hpiece : Text.StandsIn Text.isBlank "deep-learning" "deep-learning" :=
    ⟨[], [], rfl, rfl, rfl⟩
  have hterm : (tokens "deep-learning").map Token.symbol = [.term "deep-learning"] := by
    decide +kernel
  have hsound := sound_index_after default [.add (Sample.page "p" "" "deep-learning")]
  rcases hsound.exists_slot_of_document? hlive with ⟨slot, hslot, hentry⟩
  refine ⟨_, slot, rfl, hlive, hpiece, hterm, hslot, ?_⟩
  rw [parse_of_tokens hterm,
    hsound.mem_evaluate_word_iff hentry (spelled_of_tokens hterm).1 (.inr hpiece),
    ← List.all_eq_true]
  decide +kernel

end Engine
end TextSearch
