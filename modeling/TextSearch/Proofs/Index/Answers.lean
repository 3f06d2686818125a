import Mathlib.Data.List.Basic
import TextSearch.Proofs.Index.Survivors
import TextSearch.Proofs.Index.Tables
import TextSearch.Proofs.Search.Satisfaction
import TextSearch.Search.Outcome

/-!
# Answers from the live documents

Slots and postings are means to an end: every answer of an index is a function of its live
documents in their order, whatever slots they have and whatever was indexed before.

Main results:

- Theorems `Holds.frequency_eq`, `Holds.found_eq` and `Holds.mem_keys_iff`: numbers of documents,
  documents found and terms listed, told from the live documents.
- Theorems `Holds.search_eq`, `Holds.suggestions_eq`, `Holds.statistics_eq` and
  `Holds.document?_eq`: two indexes that hold the same documents answer alike.
-/

namespace TextSearch
namespace Index

/-- A set of slots that is described by what is in them is listed in the order of the entries. -/
theorem slots_eq_map_filter {index : Index} {s : SlotSet} {p : Entry → Bool}
    (h : ∀ slot, slot ∈ s ↔ ∃ entry, index.entryAt? slot = some entry ∧ p entry = true) :
    s.slots = (index.entries.entries.filter fun e => p e.2).map (·.1) := by
  have hascending : ((index.entries.entries.filter fun e => p e.2).map (·.1)).Pairwise
      (· < ·) := by
    rw [List.pairwise_map]
    refine (index.entries.ascending.filter _).imp ?_
    intro a b hlt
    exact Nat.compare_eq_lt.mp hlt
  have heq : s = ⟨_, hascending⟩ := by
    apply SlotSet.ext
    intro slot
    rw [h, SlotSet.mem_def, List.mem_map]
    constructor
    · rintro ⟨entry, hentry, hp⟩
      have hmem := (Table.find?_eq_some_iff index.entries slot entry).mp hentry
      exact ⟨(slot, entry), List.mem_filter.mpr ⟨hmem, hp⟩, rfl⟩
    · rintro ⟨e, he, rfl⟩
      rcases List.mem_filter.mp he with ⟨hmem, hp⟩
      exact ⟨e.2, (Table.find?_eq_some_iff index.entries e.1 e.2).mpr hmem, hp⟩
  rw [heq]

namespace Holds

variable {index other : Index} {live : List Document}

/-! ## Documents behind slots -/

/-- The entries of the live slots are those of the documents held. -/
theorem mem_values_iff (h : index.Holds live) (document : Document) :
    (∃ slot, index.entryAt? slot = some document.analyze) ↔ document ∈ live := by
  have hmem : document.analyze ∈ index.entries.values ↔ document ∈ live := by
    rw [h.values_eq, List.mem_map]
    constructor
    · rintro ⟨d, hd, heq⟩
      have hdocument := congrArg Entry.document heq
      rw [Document.document_analyze, Document.document_analyze] at hdocument
      rw [← hdocument]
      exact hd
    · intro hd
      exact ⟨document, hd, rfl⟩
  rw [← hmem, Table.values, List.mem_map]
  constructor
  · rintro ⟨slot, hentry⟩
    exact ⟨(slot, document.analyze), (Table.find?_eq_some_iff _ _ _).mp hentry, rfl⟩
  · rintro ⟨⟨slot, entry⟩, hmem, rfl⟩
    exact ⟨slot, (Table.find?_eq_some_iff _ _ _).mpr hmem⟩

/-- A test that some live slot passes is passed by some live document. -/
theorem exists_entry_iff (h : index.Holds live) (p : Entry → Prop) :
    (∃ slot entry, index.entryAt? slot = some entry ∧ p entry) ↔
      ∃ document ∈ live, p document.analyze := by
  constructor
  · rintro ⟨slot, entry, hentry, hp⟩
    have hanalyzed := h.sound.analyzed slot entry hentry
    rw [hanalyzed] at hentry hp
    exact ⟨entry.document, (h.mem_values_iff _).mp ⟨slot, hentry⟩, hp⟩
  · rintro ⟨document, hmem, hp⟩
    rcases (h.mem_values_iff document).mpr hmem with ⟨slot, hentry⟩
    exact ⟨slot, document.analyze, hentry, hp⟩

/-- The entries that pass a test, in the order of their slots. -/
theorem map_filter_values (h : index.Holds live) (p : Entry → Bool) :
    (index.entries.entries.filter fun e => p e.2).map (·.2) =
      (live.filter fun d => p d.analyze).map Document.analyze := by
  calc
    (index.entries.entries.filter fun e => p e.2).map (·.2)
    _ = index.entries.values.filter p := by
      rw [Table.values, List.filter_map]
      rfl
    _ = (live.map Document.analyze).filter p := by
      rw [h.values_eq]
    _ = (live.filter fun d => p d.analyze).map Document.analyze := by
      rw [List.filter_map]
      rfl

/-- The number of slots in a set is the number of documents that the set is about. -/
theorem size_slotSet (h : index.Holds live) {s : SlotSet} {p : Entry → Bool}
    (hs : ∀ slot, slot ∈ s ↔ ∃ entry, index.entryAt? slot = some entry ∧ p entry = true) :
    s.size = (live.filter fun d => p d.analyze).length := by
  have hlength := congrArg List.length (h.map_filter_values p)
  rw [List.length_map, List.length_map] at hlength
  rw [SlotSet.size, slots_eq_map_filter hs, List.length_map, hlength]

/-- The documents that a set of slots is about, in the order of the slots. -/
theorem filterMap_slotSet (h : index.Holds live) {s : SlotSet} {p : Entry → Bool}
    (hs : ∀ slot, slot ∈ s ↔ ∃ entry, index.entryAt? slot = some entry ∧ p entry = true) :
    s.slots.filterMap index.entryAt? =
      (live.filter fun d => p d.analyze).map Document.analyze := by
  rw [slots_eq_map_filter hs, List.filterMap_map, ← h.map_filter_values p, ← List.filterMap_eq_map]
  refine List.filterMap_congr fun e he => ?_
  exact (Table.find?_eq_some_iff index.entries e.1 e.2).mpr (List.mem_filter.mp he).1

/-! ## Numbers -/

theorem size_eq (h : index.Holds live) : index.size = live.length := by
  have hlength := congrArg List.length h.values_eq
  rw [Table.values, List.length_map, List.length_map] at hlength
  exact hlength

/-- The number of postings of a term is the number of live documents that are analysed to it. -/
theorem frequency_eq (h : index.Holds live) (term : String) :
    index.postings.frequency term =
      (live.filter fun d => d.analyze.terms.contains term).length := by
  refine h.size_slotSet (p := fun entry => entry.terms.contains term) fun slot => ?_
  rw [h.sound.mem_slots_iff]
  simp only [List.contains_iff_mem]

/-- No more documents have a term than there are. -/
theorem frequency_le_size (h : index.Holds live) (term : String) :
    index.postings.frequency term ≤ index.size := by
  rw [h.frequency_eq, h.size_eq]
  exact List.length_filter_le _ live

/-- The terms that are listed are those that some live document is analysed to. -/
theorem mem_keys_iff (h : index.Holds live) (term : String) :
    term ∈ index.postings.lists.keys ↔ ∃ document ∈ live, term ∈ document.analyze.terms := by
  rw [h.sound.allNonempty.mem_keys_iff, ← h.exists_entry_iff (fun entry => term ∈ entry.terms)]
  exact exists_congr fun slot => h.sound.mem_slots_iff term slot

/-- Two indexes that hold the same documents list the same terms, in the same order. -/
theorem keys_eq (h : index.Holds live) (hother : other.Holds live) :
    index.postings.lists.keys = other.postings.lists.keys := by
  refine Table.keys_ext fun term => ?_
  rw [h.mem_keys_iff, hother.mem_keys_iff]

/-! ## Answers -/

/-- An index contains the ids of the documents it holds, and no others. -/
theorem contains_iff (h : index.Holds live) (id : String) :
    index.contains id = true ↔ ∃ document ∈ live, document.id = id := by
  have hlive := h.exists_entry_iff fun entry => entry.document.id = id
  simp only [Document.document_analyze] at hlive
  rw [← hlive, contains, Table.contains, Option.isSome_iff_exists]
  exact exists_congr fun slot => h.sound.registered id slot

/-- The document under an id is the one held with that id. -/
theorem document?_eq_some_iff (h : index.Holds live) (id : String) (document : Document) :
    index.document? id = some document ↔ document ∈ live ∧ document.id = id := by
  rw [← h.mem_values_iff document, document?, Option.bind_eq_some_iff]
  constructor
  · rintro ⟨slot, hslot, hdocument⟩
    rcases Option.map_eq_some_iff.mp hdocument with ⟨entry, hentry, rfl⟩
    rcases (h.sound.registered id slot).mp hslot with ⟨entry', hentry', hid⟩
    rw [hentry] at hentry'
    rw [← Option.some.inj hentry'] at hid
    refine ⟨⟨slot, ?_⟩, hid⟩
    rw [← h.sound.analyzed slot entry hentry]
    exact hentry
  · rintro ⟨⟨slot, hentry⟩, hid⟩
    refine ⟨slot, (h.sound.registered id slot).mpr ⟨_, hentry, hid⟩, ?_⟩
    rw [hentry]
    rfl

/-- Indices that hold the same documents contain the same ids. -/
theorem contains_eq (h : index.Holds live) (hother : other.Holds live) (id : String) :
    index.contains id = other.contains id := by
  rw [Bool.eq_iff_iff, h.contains_iff, hother.contains_iff]

/-- Indices that hold the same documents give the same document for an id. -/
theorem document?_eq (h : index.Holds live) (hother : other.Holds live) (id : String) :
    index.document? id = other.document? id := by
  apply Option.ext
  intro document
  rw [h.document?_eq_some_iff, hother.document?_eq_some_iff]

/-- Indices that hold the same documents suggest the same terms. -/
theorem suggestions_eq (h : index.Holds live) (hother : other.Holds live) (beginning : String)
    (limit : Nat) : index.suggestions beginning limit = other.suggestions beginning limit := by
  simp only [suggestions, Postings.completions, h.keys_eq hother]

/-- Indices that hold the same documents have the same statistics. -/
theorem statistics_eq (h : index.Holds live) (hother : other.Holds live) :
    index.statistics = other.statistics := by
  have hfrequency : index.postings.frequency = other.postings.frequency := by
    funext term
    rw [h.frequency_eq, hother.frequency_eq]
  have hterms : index.postings.termCount = other.postings.termCount := by
    have hlength := congrArg List.length (h.keys_eq hother)
    rw [Table.keys, Table.keys, List.length_map, List.length_map] at hlength
    exact hlength
  have htotal : index.postings.total = other.postings.total := by
    rw [Postings.total_eq_sum_frequency, Postings.total_eq_sum_frequency, h.keys_eq hother,
      hfrequency]
  rw [statistics, statistics, h.size_eq, hother.size_eq, hterms, htotal, h.values_eq,
    hother.values_eq]

/-- The documents that a query asks for are the live ones that satisfy it, in their order. -/
theorem found_eq (h : index.Holds live) (query : Query) :
    (index.evaluate query).slots.filterMap index.entryAt? =
      (live.filter fun d => query.satisfiedBy d.analyze.terms).map Document.analyze := by
  refine h.filterMap_slotSet (p := fun entry => query.satisfiedBy entry.terms) fun slot => ?_
  exact h.sound.mem_evaluate

/-- Indices that hold the same documents give a word the same weight, in whatever arithmetic. -/
theorem weigh_eq {S : Type} (w : Weighing S) (h : index.Holds live) (hother : other.Holds live)
    (words : List String) : w.weigh index words = w.weigh other words := by
  refine List.map_congr_left fun word _ => ?_
  rw [h.size_eq, hother.size_eq, h.frequency_eq, hother.frequency_eq]

/-- Indices that hold the same documents find the same hits, in the same order. -/
theorem hits_eq (h : index.Holds live) (hother : other.Holds live) (tree : Query)
    (words : List String) (filters : Filters) :
    index.hits tree words filters = other.hits tree words filters := by
  rw [hits, hits, h.found_eq, hother.found_eq, weigh_eq _ h hother]

/-- Indices that hold the same documents answer every search alike. -/
theorem search_eq (h : index.Holds live) (hother : other.Holds live) (query : String)
    (options : Options) : index.search query options = other.search query options := by
  simp only [search, h.hits_eq hother]

end Holds
end Index
end TextSearch
