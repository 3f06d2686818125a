import Mathlib.Algebra.BigOperators.Group.List.Basic
import Mathlib.Algebra.Ring.Nat
import Mathlib.Data.Finset.Card
import TextSearch.Proofs.Index.Answers
import TextSearch.Proofs.Index.Vocabulary

/-!
# Recounting an index

The counts of an index are read off its tables, and the number of postings is a sum over terms.
Here they are told from the live documents alone, and the number of postings is a sum over
documents: each pair of a document and a term is counted once in either way.

Main results:

- Theorem `sum_countP_comm`: pairs are counted by their first or by their second parts.
- Theorem `Index.Holds.total_eq`: the number of postings, document by document.
- Theorem `Index.statistics_recounted`: every count is what counting the live documents anew gives.
-/

namespace TextSearch

/-! ## Counting pairs -/

/-- A sum of ones and zeros counts. -/
theorem sum_map_indicator {α : Type} (p : α → Bool) (l : List α) :
    (l.map fun a => if p a then 1 else 0).sum = l.countP p := by
  induction l with
  | nil => rfl
  | cons a l ih => rw [List.map_cons, List.sum_cons, ih, List.countP_cons, Nat.add_comm]

/-- Pairs that pass a test are counted by their first or by their second parts. -/
theorem sum_countP_comm {α β : Type} (p : α → β → Bool) (firsts : List α) (seconds : List β) :
    (firsts.map fun a => seconds.countP (p a)).sum =
      (seconds.map fun b => firsts.countP (p · b)).sum := by
  induction firsts with
  | nil => simp
  | cons a firsts ih =>
    simp only [List.map_cons, List.sum_cons, ih, List.countP_cons, List.sum_map_add,
      sum_map_indicator, Nat.add_comm]

/-- The number of terms, told from the terms that are listed. -/
theorem Postings.termCount_eq_card (postings : Postings) :
    postings.termCount = postings.lists.keys.toFinset.card := by
  rw [List.toFinset_card_of_nodup postings.lists.nodup_keys, Table.keys, List.length_map]
  rfl

/-! ## Counts of an index -/

namespace Index
namespace Holds

variable {index : Index} {live : List Document}

/-- As many documents have a term as there are live ones with it. -/
theorem frequency_eq_countP (h : index.Holds live) (term : String) :
    index.postings.frequency term = live.countP fun d => term ∈ d.derived := by
  rw [h.frequency_eq, ← List.countP_eq_length_filter]
  apply List.countP_congr
  intro d _
  rw [List.contains_iff_mem, decide_eq_true_iff, Document.mem_terms_analyze_iff_mem_derived]

/-- The terms with a posting list are those that a live document derives. -/
theorem mem_keys_iff_mem_derived (h : index.Holds live) (term : String) :
    term ∈ index.postings.lists.keys ↔ ∃ document ∈ live, term ∈ document.derived := by
  simp only [h.mem_keys_iff, Document.mem_terms_analyze_iff_mem_derived]

/-- As many terms are listed as the live documents have, all together. -/
theorem termCount_eq (h : index.Holds live) :
    index.postings.termCount = (live.flatMap Document.derived).toFinset.card := by
  have hkeys : index.postings.lists.keys.toFinset = (live.flatMap Document.derived).toFinset := by
    ext term
    rw [List.mem_toFinset, List.mem_toFinset, List.mem_flatMap, h.mem_keys_iff_mem_derived]
  rw [Postings.termCount_eq_card, hkeys]

/-- Each document has as many postings as it has terms. -/
theorem countP_keys (h : index.Holds live) {document : Document} (hlive : document ∈ live) :
    (index.postings.lists.keys.countP fun term => term ∈ document.derived) =
      document.derived.toFinset.card := by
  have hsame : (index.postings.lists.keys.filter fun term => term ∈ document.derived).toFinset =
      document.derived.toFinset := by
    ext term
    rw [List.mem_toFinset, List.mem_toFinset, List.mem_filter, decide_eq_true_iff,
      h.mem_keys_iff_mem_derived]
    constructor
    · exact fun hterm => hterm.2
    · exact fun hterm => ⟨⟨document, hlive, hterm⟩, hterm⟩
  rw [List.countP_eq_length_filter, ← hsame,
    List.toFinset_card_of_nodup (index.postings.lists.nodup_keys.filter _)]

/-- The number of postings, document by document. -/
theorem total_eq (h : index.Holds live) :
    index.postings.total = (live.map fun d => d.derived.toFinset.card).sum := by
  calc
    index.postings.total
    _ = (index.postings.lists.keys.map index.postings.frequency).sum :=
      index.postings.total_eq_sum_frequency
    _ = (index.postings.lists.keys.map fun term => live.countP fun d => term ∈ d.derived).sum :=
      congrArg List.sum (List.map_congr_left fun term _ => h.frequency_eq_countP term)
    _ = (live.map fun d => index.postings.lists.keys.countP fun term => term ∈ d.derived).sum :=
      sum_countP_comm (fun term (d : Document) => term ∈ d.derived) _ _
    _ = (live.map fun d => d.derived.toFinset.card).sum :=
      congrArg List.sum (List.map_congr_left fun d hd => h.countP_keys hd)

/-- The number of characters of the bodies of the live documents. -/
theorem bodyChars_eq (h : index.Holds live) :
    index.statistics.bodyChars = (live.map fun d => d.body.length).sum := by
  rw [statistics, h.values_eq, List.map_map]
  rfl

end Holds

/-- The counts of an index are those that counting its live documents anew gives, whatever was
added, replaced, removed and refused before. -/
theorem statistics_recounted (changes : List Change) :
    (∀ document, document ∈ survivors changes ↔
        (after changes).document? document.id = some document) ∧
      (after changes).statistics.documents = ((survivors changes).map Document.id).toFinset.card ∧
      (after changes).statistics.terms =
        ((survivors changes).flatMap Document.derived).toFinset.card ∧
      (after changes).statistics.postings =
        ((survivors changes).map fun d => d.derived.toFinset.card).sum ∧
      (∀ term, (after changes).postings.frequency term =
        (survivors changes).countP fun d => term ∈ d.derived) ∧
      (after changes).statistics.bodyChars =
        ((survivors changes).map fun d => d.body.length).sum ∧
      (after changes).statistics.meanBodyChars =
        if survivors changes = [] then 0
        else Float.ofNat ((survivors changes).map fun d => d.body.length).sum /
          Float.ofNat (survivors changes).length := by
  have h := holds_after changes
  have hids : ((survivors changes).map Document.id).Nodup :=
    List.pairwise_map.mpr (compatible_survivors changes).distinct
  refine ⟨fun document => ?_, ?_, h.termCount_eq, h.total_eq, h.frequency_eq_countP,
    h.bodyChars_eq, ?_⟩
  · rw [h.document?_eq_some_iff]
    exact (and_iff_left rfl).symm
  · rw [List.toFinset_card_of_nodup hids, List.length_map]
    exact h.size_eq
  · have hdocuments : (after changes).statistics.documents = (survivors changes).length :=
      h.size_eq
    simp only [Statistics.meanBodyChars, hdocuments, h.bodyChars_eq, List.length_eq_zero_iff]

end Index
end TextSearch
