import TextSearch.Proofs.Index.Soundness
import TextSearch.Search.Evaluation

/-!
# Which documents satisfy a query

A query is evaluated on a whole index, by sets of slots and with short cuts.  Here a query is read
one document at a time: a document satisfies it or not, and only its own terms decide.

Main results:

- Theorem `Sound.mem_evaluate_iff_satisfiedBy`: in a sound index, evaluation finds a live document
  if and only if the terms that are stored with it satisfy the query.
- Theorem `mem_evaluate_after_iff`: after every history, evaluation finds exactly the slots of the
  live documents that satisfy the query.
-/

namespace TextSearch

namespace Query

/-- Some term begins with a text that stands for itself and goes on as the pattern says.  A pattern
that does not compile matches nothing. -/
def someMatch (terms : List String) (literal pattern : String) : Bool :=
  match Wildcard.compile? literal pattern with
  | none => false
  | some compiled => terms.any fun term => compiled.accepts term.toList

/-- One of the terms is the facet of a field with the given value. -/
def facetSatisfiedBy (terms : List String) (name : String) : Query → Bool
  | .term value => terms.contains (Text.lowercase name ++ ":" ++ Text.lowercase value)
  | .phrase value => terms.contains (Text.lowercase name ++ ":" ++ Text.lowercase value)
  | .wildcard pattern => someMatch terms (Text.lowercase name ++ ":") pattern
  | _ => false

/-- A document with the given terms satisfies a query. -/
def satisfiedBy (terms : List String) : Query → Bool
  | .term value => terms.contains (Text.lowercase value)
  | .phrase value => !(Text.terms value).isEmpty && (Text.terms value).all terms.contains
  | .wildcard pattern => someMatch terms "" pattern
  | .field name value => facetSatisfiedBy terms name value
  | .range _ _ => false
  | .and left right => left.satisfiedBy terms && right.satisfiedBy terms
  | .or left right => left.satisfiedBy terms || right.satisfiedBy terms
  | .not operand => !operand.satisfiedBy terms

end Query

namespace Index

/-! ## What the parts of an evaluation find -/

/-- The short cuts of a phrase change nothing: a slot is left if and only if it is under every
word. -/
theorem mem_narrow {index : Index} {found : SlotSet} {words : List String} {slot : Slot} :
    slot ∈ index.narrow found words ↔
      slot ∈ found ∧ ∀ word ∈ words, slot ∈ index.postings.slots word := by
  induction words generalizing found with
  | nil => simp [narrow]
  | cons word rest ih =>
    rw [narrow, List.forall_mem_cons]
    split
    · rename_i hempty
      have hnone := SlotSet.isEmpty_iff.mp hempty slot
      constructor
      · intro hslot
        exact absurd hslot hnone
      · rintro ⟨hslot, _⟩
        exact absurd hslot hnone
    · cases hfind : index.postings.find? word with
      | none =>
        rw [Postings.slots_eq_of_find?_eq_none hfind]
        simp
      | some slots =>
        have hslots : index.postings.slots word = slots := by
          rw [Postings.slots, hfind]
          rfl
        rw [hslots]
        simp only [ih, SlotSet.mem_inter, and_assoc]

/-- A phrase is looked up by its terms, all of which a slot must be posted under; one without terms
finds nothing. -/
theorem mem_phraseSlots {index : Index} {value : String} {slot : Slot} :
    slot ∈ index.phraseSlots value ↔
      Text.terms value ≠ [] ∧ ∀ word ∈ Text.terms value, slot ∈ index.postings.slots word := by
  rw [phraseSlots]
  cases Text.terms value with
  | nil => simp
  | cons first rest => simp [mem_narrow]

/-- A wildcard finds the slots of the terms it accepts, if it compiles. -/
theorem mem_wildcardSlots {index : Index} {literal pattern : String} {slot : Slot} :
    slot ∈ index.wildcardSlots literal pattern ↔
      ∃ wildcard, Wildcard.compile? literal pattern = some wildcard ∧
        ∃ term, wildcard.accepts term.toList = true ∧ slot ∈ index.postings.slots term := by
  rw [wildcardSlots]
  cases Wildcard.compile? literal pattern with
  | none => simp
  | some wildcard => simp [Postings.mem_unionMatching]

/-- The short cut of a conjunction changes nothing. -/
theorem mem_evaluate_and {index : Index} {left right : Query} {slot : Slot} :
    slot ∈ index.evaluate (.and left right) ↔
      slot ∈ index.evaluate left ∧ slot ∈ index.evaluate right := by
  rw [evaluate]
  split
  · rename_i hempty
    have hnone := SlotSet.isEmpty_iff.mp hempty slot
    constructor
    · intro hslot
      exact absurd hslot hnone
    · rintro ⟨hslot, _⟩
      exact absurd hslot hnone
  · exact SlotSet.mem_inter

namespace Sound

variable {index : Index} {slot : Slot}

/-! ## Live slots -/

/-- A live slot is under exactly the terms that are stored with its document. -/
theorem mem_slots_iff_mem_terms (h : index.Sound) {entry : Entry}
    (hentry : index.entryAt? slot = some entry) (term : String) :
    slot ∈ index.postings.slots term ↔ term ∈ entry.terms := by
  rw [h.mem_slots_iff]
  constructor
  · rintro ⟨entry', hentry', hterm⟩
    rw [hentry] at hentry'
    rw [← Option.some.inj hentry'] at hterm
    exact hterm
  · intro hterm
    exact ⟨entry, hentry, hterm⟩

/-- A wildcard finds a live slot when it matches some term of the entry. -/
theorem mem_wildcardSlots_iff_someMatch (h : index.Sound) {entry : Entry}
    (hentry : index.entryAt? slot = some entry) (literal pattern : String) :
    slot ∈ index.wildcardSlots literal pattern ↔
      Query.someMatch entry.terms literal pattern = true := by
  rw [mem_wildcardSlots, Query.someMatch]
  cases Wildcard.compile? literal pattern with
  | none => simp
  | some wildcard => simp [h.mem_slots_iff_mem_terms hentry, and_comm]

/-- A field finds a live slot when the facet is satisfied by the terms of the entry. -/
theorem mem_fieldSlots_iff_facetSatisfiedBy (h : index.Sound) {entry : Entry}
    (hentry : index.entryAt? slot = some entry) (name : String) (value : Query) :
    slot ∈ index.fieldSlots name value ↔
      value.facetSatisfiedBy entry.terms name = true := by
  cases value with
  | term value =>
    rw [fieldSlots, fieldStem, Query.facetSatisfiedBy, h.mem_slots_iff_mem_terms hentry]
    exact List.contains_iff_mem.symm
  | phrase value =>
    rw [fieldSlots, fieldStem, Query.facetSatisfiedBy, h.mem_slots_iff_mem_terms hentry]
    exact List.contains_iff_mem.symm
  | wildcard pattern =>
    rw [fieldSlots, fieldStem, Query.facetSatisfiedBy, h.mem_wildcardSlots_iff_someMatch hentry]
  | _ => simp [fieldSlots, Query.facetSatisfiedBy]

/-- Evaluation finds a live slot if and only if the terms of its document satisfy the query. -/
theorem mem_evaluate_iff_satisfiedBy (h : index.Sound) {entry : Entry}
    (hentry : index.entryAt? slot = some entry) (query : Query) :
    slot ∈ index.evaluate query ↔ query.satisfiedBy entry.terms = true := by
  induction query with
  | term value =>
    rw [evaluate, Query.satisfiedBy, h.mem_slots_iff_mem_terms hentry]
    exact List.contains_iff_mem.symm
  | phrase value =>
    rw [evaluate, Query.satisfiedBy, mem_phraseSlots]
    simp [h.mem_slots_iff_mem_terms hentry]
  | wildcard pattern =>
    rw [evaluate, Query.satisfiedBy, h.mem_wildcardSlots_iff_someMatch hentry]
  | field name value => exact h.mem_fieldSlots_iff_facetSatisfiedBy hentry name value
  | range low high => simp [evaluate, Query.satisfiedBy]
  | and left right ihl ihr =>
    rw [mem_evaluate_and, ihl, ihr, Query.satisfiedBy, Bool.and_eq_true]
  | or left right ihl ihr =>
    rw [evaluate, SlotSet.mem_union, ihl, ihr, Query.satisfiedBy, Bool.or_eq_true]
  | not operand ih =>
    have hlive : slot ∈ index.allSlots := by
      rw [mem_allSlots, hentry]
      rfl
    rw [evaluate, SlotSet.mem_diff, ih, Query.satisfiedBy]
    simp [hlive]

/-! ## Slots without a document -/

/-- A slot without an entry is posted nowhere. -/
theorem not_mem_slots (h : index.Sound) (hnone : index.entryAt? slot = none) (term : String) :
    ¬ slot ∈ index.postings.slots term := by
  rw [h.mem_slots_iff]
  rintro ⟨entry, hentry, _⟩
  rw [hnone] at hentry
  contradiction

/-- A slot without an entry is found by no wildcard. -/
theorem not_mem_wildcardSlots (h : index.Sound) (hnone : index.entryAt? slot = none)
    (literal pattern : String) : ¬ slot ∈ index.wildcardSlots literal pattern := by
  rw [mem_wildcardSlots]
  rintro ⟨_, _, term, _, hslot⟩
  exact h.not_mem_slots hnone term hslot

/-- Evaluation finds no slot without a live document. -/
theorem not_mem_evaluate (h : index.Sound) (hnone : index.entryAt? slot = none) (query : Query) :
    ¬ slot ∈ index.evaluate query := by
  induction query with
  | term value => exact h.not_mem_slots hnone _
  | phrase value =>
    rw [evaluate, mem_phraseSlots]
    rintro ⟨hwords, hslot⟩
    rcases List.exists_mem_of_ne_nil _ hwords with ⟨word, hword⟩
    exact h.not_mem_slots hnone word (hslot word hword)
  | wildcard pattern =>
    rw [evaluate]
    exact h.not_mem_wildcardSlots hnone "" pattern
  | field name value =>
    rw [evaluate]
    cases value with
    | term value => exact h.not_mem_slots hnone _
    | phrase value => exact h.not_mem_slots hnone _
    | wildcard pattern =>
      rw [fieldSlots]
      exact h.not_mem_wildcardSlots hnone _ pattern
    | _ => exact SlotSet.not_mem_empty slot
  | range low high => exact SlotSet.not_mem_empty slot
  | and left right ihl _ =>
    rw [mem_evaluate_and]
    rintro ⟨hslot, _⟩
    exact ihl hslot
  | or left right ihl ihr =>
    rw [evaluate, SlotSet.mem_union]
    rintro (hslot | hslot)
    · exact ihl hslot
    · exact ihr hslot
  | not operand _ =>
    rw [evaluate, SlotSet.mem_diff, mem_allSlots, hnone]
    rintro ⟨hlive, _⟩
    contradiction

/-- Evaluation finds exactly the live slots whose documents satisfy the query. -/
theorem mem_evaluate (h : index.Sound) {query : Query} :
    slot ∈ index.evaluate query ↔
      ∃ entry, index.entryAt? slot = some entry ∧ query.satisfiedBy entry.terms = true := by
  cases hentry : index.entryAt? slot with
  | none => simp [h.not_mem_evaluate hentry query]
  | some entry => simp [h.mem_evaluate_iff_satisfiedBy hentry query]

end Sound

/-- After every history, evaluation finds exactly the slots of the live documents that satisfy the
query by the terms they are analysed to. -/
theorem mem_evaluate_after_iff (changes : List Change) (query : Query) (slot : Slot) :
    slot ∈ (after changes).evaluate query ↔
      ∃ entry, (after changes).entryAt? slot = some entry ∧
        query.satisfiedBy entry.document.analyze.terms = true := by
  have hsound := sound_after changes
  rw [hsound.mem_evaluate]
  refine exists_congr fun entry => and_congr_right fun hentry => ?_
  rw [← hsound.analyzed slot entry hentry]

end Index
end TextSearch
