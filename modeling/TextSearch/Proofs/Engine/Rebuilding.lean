import TextSearch.Engine
import TextSearch.Sample
import TextSearch.Proofs.Index.Answers

/-!
# Rebuilding an engine

An engine forgets its history: it answers as an engine does that was built anew from the survivors
of the history, in their order.

Main results:

- Theorem `after_eq`: a history changes nothing of an engine but its index.
- Theorem `sameAnswers_rebuilt`: every answer after a history is the answer of a new engine to
  which the survivors were added once each; hence changes that cancel out or repeat each other
  change no answer.
-/

namespace TextSearch
namespace Engine

/-- Carry out a change.  A change that is refused leaves everything as it is. -/
def apply (engine : Engine) : Change → Engine
  | .add document =>
    match engine.add document with
    | .ok changed => changed
    | .error _ => engine
  | .update document =>
    match engine.update document with
    | .ok changed => changed
    | .error _ => engine
  | .addAll documents =>
    match engine.addAll documents with
    | .ok (changed, _) => changed
    | .error _ => engine
  | .remove id => (engine.remove id).1
  | .clear => engine.clear

/-- The engine after a history that begins with nothing. -/
def after (defaults : Options) (changes : List Change) : Engine :=
  changes.foldl apply (new defaults)

/-- The two engines cannot be told apart by questions. -/
structure SameAnswers (a b : Engine) : Prop where
  searchWith : ∀ query options, a.searchWith query options = b.searchWith query options
  search : ∀ query, a.search query = b.search query
  suggestions : ∀ beginning limit, a.suggestions beginning limit = b.suggestions beginning limit
  statistics : a.statistics = b.statistics
  contains : ∀ id, a.contains id = b.contains id
  document? : ∀ id, a.document? id = b.document? id
  size : a.size = b.size

/-! ## Histories of engines and of indexes -/

/-- A change of an engine is a change of its index. -/
theorem apply_eq (engine : Engine) (change : Change) :
    engine.apply change = { engine with index := engine.index.apply change } := by
  cases change with
  | add document =>
    rw [apply, Index.apply, add]
    cases engine.index.add document with
    | error _ => rfl
    | ok _ => rfl
  | update document =>
    rw [apply, Index.apply, update]
    cases engine.index.update document with
    | error _ => rfl
    | ok _ => rfl
  | addAll documents =>
    rw [apply, Index.apply, addAll]
    cases engine.index.addAll documents with
    | error _ => rfl
    | ok _ => rfl
  | remove id => rfl
  | clear => rfl

/-- A history changes nothing of an engine but its index. -/
theorem after_eq (defaults : Options) (changes : List Change) :
    after defaults changes = ⟨Index.after changes, defaults⟩ := by
  rw [after, Index.after, new]
  generalize Index.empty = index
  induction changes generalizing index with
  | nil => rfl
  | cons change rest ih =>
    rw [List.foldl_cons, List.foldl_cons, apply_eq]
    exact ih _

/-- Documents with addresses are added without refusal. -/
theorem foldlM_add (engine : Engine) {documents : List Document}
    (hall : ∀ document ∈ documents, document.isAddressable = true) :
    documents.foldlM add engine = .ok ((documents.map Change.add).foldl apply engine) := by
  induction documents generalizing engine with
  | nil => rfl
  | cons document rest ih =>
    have haddressable := hall document List.mem_cons_self
    have hadd : engine.add document = .ok (engine.apply (.add document)) := by
      rw [apply, add, Index.add, if_pos haddressable]
      rfl
    rw [List.foldlM_cons, hadd, List.map_cons, List.foldl_cons]
    exact ih _ fun d hd => hall d (List.mem_cons_of_mem _ hd)

/-! ## The same answers -/

/-- Indexes that hold the same documents answer alike. -/
theorem sameAnswers_of_holds {a b : Engine} {live : List Document} (ha : a.index.Holds live)
    (hb : b.index.Holds live) (hdefaults : a.defaults = b.defaults) : a.SameAnswers b where
  searchWith := ha.search_eq hb
  search := by
    intro query
    rw [search, search, hdefaults]
    exact ha.search_eq hb query b.defaults
  suggestions := by
    intro beginning limit
    exact ha.suggestions_eq hb beginning _
  statistics := ha.statistics_eq hb
  contains := ha.contains_eq hb
  document? := ha.document?_eq hb
  size := by
    rw [size, size, ha.size_eq, hb.size_eq]

/-- Histories with the same survivors lead to engines with the same answers. -/
theorem sameAnswers_of_survivors_eq (defaults : Options) {changes others : List Change}
    (h : survivors changes = survivors others) :
    (after defaults changes).SameAnswers (after defaults others) := by
  have hothers := Index.holds_after others
  rw [← h] at hothers
  rw [after_eq, after_eq]
  exact sameAnswers_of_holds (Index.holds_after changes) hothers rfl

/-- After every history, an engine answers as a new engine to which the survivors of the history
were added once each, in their order.  In particular, adding a document where none had its
identifier and removing it again changes no answer, and neither does repeating an update. -/
theorem sameAnswers_rebuilt (defaults : Options) (changes : List Change) :
    (∃ fresh, (survivors changes).foldlM add (new defaults) = .ok fresh ∧
      (after defaults changes).SameAnswers fresh) ∧
    (∀ document, (after defaults changes).contains document.id = false →
      (after defaults (changes ++ [.add document, .remove document.id])).SameAnswers
        (after defaults changes)) ∧
    ∀ document,
      (after defaults (changes ++ [.update document, .update document])).SameAnswers
        (after defaults (changes ++ [.update document])) := by
  refine ⟨?_, ?_, ?_⟩
  · refine ⟨after defaults ((survivors changes).map Change.add), ?_, ?_⟩
    · exact foldlM_add _ (compatible_survivors changes).addressable
    · exact sameAnswers_of_survivors_eq defaults (survivors_map_add changes).symm
  · intro document habsent
    apply sameAnswers_of_survivors_eq
    apply survivors_add_remove
    intro d hd hid
    have hpresent : (after defaults changes).contains document.id = true := by
      rw [after_eq]
      exact ((Index.holds_after changes).contains_iff document.id).mpr ⟨d, hd, hid⟩
    rw [hpresent] at habsent
    contradiction
  · intro document
    exact sameAnswers_of_survivors_eq defaults (survivors_update_update changes document)

/-- A page that is added and removed again leaves no trace. -/
theorem sameAnswers_withdrawn :
    (after default [.add (Sample.page "a" "Rust" "rust"), .add (Sample.page "b" "Go" "go"),
      .remove "b"]).SameAnswers (after default [.add (Sample.page "a" "Rust" "rust")]) :=
  (sameAnswers_rebuilt default [.add (Sample.page "a" "Rust" "rust")]).2.1
    (Sample.page "b" "Go" "go") (by decide +kernel)

end Engine
end TextSearch
