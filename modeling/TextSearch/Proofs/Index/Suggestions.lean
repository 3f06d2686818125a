import TextSearch.Proofs.Index.Recount
import TextSearch.Proofs.Text.Bytes
import TextSearch.Proofs.Text.Occurrences
import TextSearch.Sample

/-!
# Suggestions

What is suggested for a beginning is the first part of one ascending list, the one of all terms of
live documents that go on behind the beginning.  So it tells nothing of the order of the table of
terms, nor of what was indexed and is no longer there.

Main results:

- Theorem `Postings.goesOn_iff`: to go on behind a text is to begin with it and to differ from it.
- Theorem `Table.pairwise_bytes_keys`: terms are listed in the order of their bytes.
- Theorem `Index.suggestions_eq_take`: what is suggested after any history.
-/

namespace TextSearch

/-- Keys that are texts are listed in the order of their bytes. -/
theorem Table.pairwise_bytes_keys {α : Type} (table : Table String α) :
    table.keys.Pairwise fun a b => Text.bytes a < Text.bytes b := by
  refine table.ascending_keys.imp ?_
  intro a b hlt
  exact Text.bytes_lt_of_lt (compareOfLessAndEq_eq_lt.mp hlt)

namespace Postings

/-- To go on behind a text is to begin with it and to differ from it. -/
theorem goesOn_iff {beginning text : List Char} :
    goesOn beginning text = true ↔ beginning <+: text ∧ text ≠ beginning := by
  rw [goesOn, Bool.and_eq_true, decide_eq_true_iff, Text.beginsWith_iff_prefix]
  constructor
  · rintro ⟨hlength, hbegins⟩
    refine ⟨hbegins, ?_⟩
    rintro rfl
    exact Nat.lt_irrefl _ hlength
  · rintro ⟨hbegins, hne⟩
    refine ⟨Nat.lt_of_le_of_ne hbegins.length_le ?_, hbegins⟩
    intro hlength
    exact hne (hbegins.eq_of_length hlength).symm

/-- All terms that go on behind a text. -/
def continuations (postings : Postings) (beginning : String) : List String :=
  postings.lists.keys.filter fun term => goesOn beginning.toList term.toList

theorem completions_eq_take (postings : Postings) (beginning : String) (limit : Nat) :
    postings.completions beginning limit = (postings.continuations beginning).take limit :=
  rfl

/-- Continuations come in ascending order of their bytes. -/
theorem pairwise_bytes_continuations (postings : Postings) (beginning : String) :
    (postings.continuations beginning).Pairwise fun a b => Text.bytes a < Text.bytes b :=
  postings.lists.pairwise_bytes_keys.filter _

end Postings

namespace Index

/-- The suggestions for a text that is not empty are the first continuations of its lower-case form.
-/
theorem suggestions_of_ne {beginning : String} (hne : beginning ≠ "") (index : Index)
    (limit : Nat) :
    index.suggestions beginning limit =
      (index.postings.continuations (Text.lowercase beginning)).take limit := by
  rw [suggestions, if_neg hne, Postings.completions_eq_take]

/-- The terms that go on behind a text are those of the live documents that do. -/
theorem Holds.mem_continuations_iff {index : Index} {live : List Document} (h : index.Holds live)
    (beginning term : String) :
    term ∈ index.postings.continuations beginning ↔
      (∃ document ∈ live, term ∈ document.derived) ∧
        beginning.toList <+: term.toList ∧ term ≠ beginning := by
  rw [Postings.continuations, List.mem_filter, h.mem_keys_iff_mem_derived, Postings.goesOn_iff,
    ne_eq, String.toList_inj]

/-- After any history nothing is suggested for an empty beginning, and for any other one the first
terms of one list: that of the terms of live documents that begin with it in lower case and differ
from it, by their bytes.  So a lower limit cuts the list of suggestions short and changes nothing
else, and nothing is suggested that only documents removed or replaced had. -/
theorem suggestions_eq_take (changes : List Change) :
    (∀ limit, (after changes).suggestions "" limit = []) ∧
      ∀ beginning, beginning ≠ "" → ∃ offered : List String,
        (∀ term, term ∈ offered ↔
          (∃ document ∈ survivors changes, term ∈ document.derived) ∧
            (Text.lowercase beginning).toList <+: term.toList ∧
            term ≠ Text.lowercase beginning) ∧
          offered.Pairwise (fun a b => Text.bytes a < Text.bytes b) ∧
          (∀ limit, (after changes).suggestions beginning limit = offered.take limit) ∧
          (∀ fewer more, fewer ≤ more →
            (after changes).suggestions beginning fewer <+:
              (after changes).suggestions beginning more) ∧
          ∀ limit, ∀ term ∈ (after changes).suggestions beginning limit,
            ∃ document ∈ survivors changes, term ∈ document.derived := by
  refine ⟨fun limit => if_pos rfl, ?_⟩
  intro beginning hne
  have htake := suggestions_of_ne hne (after changes)
  have hmem := (holds_after changes).mem_continuations_iff (Text.lowercase beginning)
  refine ⟨(after changes).postings.continuations (Text.lowercase beginning), hmem,
    Postings.pairwise_bytes_continuations _ _, htake, ?_, ?_⟩
  · intro fewer more hle
    rw [htake, htake]
    exact List.take_prefix_take_left hle
  · intro limit term hterm
    rw [htake] at hterm
    exact ((hmem term).mp (List.mem_of_mem_take hterm)).1

/-- A page that is replaced takes with it a term that its new version lacks; a term of another page
stays on offer. -/
theorem suggestions_eq_take_replaced :
    ∃ index : Index, ∃ offered : List String,
      index = after [.add (Sample.page "a" "Rüben" "rübe"), .add (Sample.page "b" "Rübezahl" ""),
        .update (Sample.page "a" "Rübe" "rübenkraut")] ∧
      "rübenkraut" ∈ offered ∧ "rübezahl" ∈ offered ∧ "rübe" ∉ offered ∧ "rüben" ∉ offered ∧
      offered.Pairwise (fun a b => Text.bytes a < Text.bytes b) ∧
      (∀ limit, index.suggestions "RÜBE" limit = offered.take limit) ∧
      index.suggestions "RÜBE" 1 <+: index.suggestions "RÜBE" 2 := by
  obtain ⟨changes, hchanges⟩ : ∃ changes : List Change, changes =
      [.add (Sample.page "a" "Rüben" "rübe"), .add (Sample.page "b" "Rübezahl" ""),
        .update (Sample.page "a" "Rübe" "rübenkraut")] :=
    ⟨_, rfl⟩
  have hlive : survivors changes =
      [Sample.page "b" "Rübezahl" "", Sample.page "a" "Rübe" "rübenkraut"] := by
    rw [hchanges]
    rfl
  obtain ⟨offered, hmem, hascending, htake, hcut, -⟩ :=
    (suggestions_eq_take changes).2 "RÜBE" (by decide)
  rw [hlive] at hmem
  refine ⟨after changes, offered, by rw [hchanges], ?_, ?_, ?_, ?_, hascending, htake,
    hcut 1 2 (by decide)⟩
  all_goals
    rw [hmem]
    decide +kernel

end Index
end TextSearch
