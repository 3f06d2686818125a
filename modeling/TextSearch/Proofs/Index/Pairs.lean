import Mathlib.Algebra.BigOperators.Group.List.Basic
import Mathlib.Algebra.Order.BigOperators.Group.Finset
import Mathlib.Data.Finset.Sort
import TextSearch.Proofs.Index.Suggestions

/-!
# Postings beside a set of pairs

Postings are a table with sets of slots under terms.  Seen from outside they are nothing but a set
of pairs of a term and a slot.  Here any changes are made to them, also such as no index ever makes:
terms and slots are arbitrary, what is put in may be there already, and what is taken away may never
have been there.  The same changes are made to a mathematical set, and every answer of the table is
told from the set.

A table that does not keep its terms in order goes through its entries in some other order.
`unionOver` and `completionsOver` go through a listing of the entries as it comes.

Main results:

- Theorem `represents_after`: after any changes the postings hold exactly the pairs of the set.
- Theorems `Represents.frequency_eq`, `Represents.termCount_eq` and `Represents.total_eq`: the
  counts are those of the set.
- Theorems `unionOver_eq_of_perm` and `completionsOver_eq_of_perm`: the order of a listing does not
  matter.
- Theorem `answers_from_pairs`: every answer after any changes.
-/

namespace TextSearch

/-! ## Changes of postings and of pairs -/

/-- A change of postings. -/
inductive PostingChange where
  | insert (term : String) (slot : Slot)
  | retract (term : String) (slot : Slot)
  | clear
  deriving DecidableEq, Repr

/-- What a change makes of a set of pairs. -/
def PostingChange.onPairs (pairs : Finset (String × Slot)) :
    PostingChange → Finset (String × Slot)
  | .insert term slot => Insert.insert (term, slot) pairs
  | .retract term slot => pairs.erase (term, slot)
  | .clear => ∅

/-- The pairs that there are after changes, when there were none before. -/
def pairsAfter (changes : List PostingChange) : Finset (String × Slot) :=
  changes.foldl PostingChange.onPairs ∅

/-- The slots that are paired with some accepted term. -/
def slotsPaired (pairs : Finset (String × Slot)) (accept : String → Bool) : Finset Slot :=
  (pairs.filter fun pair => accept pair.1).image Prod.snd

/-- The slots paired with an accepted term. -/
theorem mem_slotsPaired {pairs : Finset (String × Slot)} {accept : String → Bool} {slot : Slot} :
    slot ∈ slotsPaired pairs accept ↔ ∃ term, accept term = true ∧ (term, slot) ∈ pairs := by
  simp only [slotsPaired, Finset.mem_image, Finset.mem_filter, Prod.exists, exists_eq_right]
  exact exists_congr fun term => and_comm

/-- The slots paired with one term. -/
theorem mem_slotsPaired_beq {pairs : Finset (String × Slot)} {term : String} {slot : Slot} :
    slot ∈ slotsPaired pairs (· == term) ↔ (term, slot) ∈ pairs := by
  simp [mem_slotsPaired]

namespace SlotSet

variable {s : SlotSet} {members : Finset Slot}

theorem nodup_slots (s : SlotSet) : s.slots.Nodup :=
  s.ascending.imp fun hlt => Nat.ne_of_lt hlt

/-- A slot set with the members of a finite set is that set. -/
theorem toFinset_slots (h : ∀ slot, slot ∈ s ↔ slot ∈ members) : s.slots.toFinset = members := by
  ext slot
  rw [List.mem_toFinset, ← mem_def, h]

/-- A set of slots lists its members in ascending order. -/
theorem slots_eq_sort (h : ∀ slot, slot ∈ s ↔ slot ∈ members) :
    s.slots = members.sort (· ≤ ·) := by
  rw [← toFinset_slots h, eq_comm, List.toFinset_sort (· ≤ ·) s.nodup_slots]
  exact s.ascending.imp fun hlt => Nat.le_of_lt hlt

/-- A slot set with the members of a finite set has its size. -/
theorem size_eq_card (h : ∀ slot, slot ∈ s ↔ slot ∈ members) : s.size = members.card := by
  rw [← toFinset_slots h, List.toFinset_card_of_nodup s.nodup_slots, size]

end SlotSet

namespace Postings

/-- Make a change. -/
def apply (postings : Postings) : PostingChange → Postings
  | .insert term slot => postings.insert term slot
  | .retract term slot => (postings.retract term slot).1
  | .clear => empty

/-- The postings after changes, when there were none before. -/
def after (changes : List PostingChange) : Postings :=
  changes.foldl apply empty

/-! ## What changes keep -/

/-- The postings hold exactly the given pairs, and no term without one. -/
structure Represents (postings : Postings) (pairs : Finset (String × Slot)) : Prop where
  allNonempty : postings.AllNonempty
  mem_slots_iff : ∀ term slot, slot ∈ postings.slots term ↔ (term, slot) ∈ pairs

namespace Represents

variable {postings : Postings} {pairs : Finset (String × Slot)}

/-- The empty postings represent no pair. -/
theorem empty : Postings.empty.Represents ∅ where
  allNonempty := allNonempty_empty
  mem_slots_iff := by simp

/-- Inserting adds the pair. -/
theorem insert (h : postings.Represents pairs) (term : String) (slot : Slot) :
    (postings.insert term slot).Represents (Insert.insert (term, slot) pairs) where
  allNonempty := allNonempty_insert h.allNonempty term slot
  mem_slots_iff := by
    intro term' slot'
    rw [mem_slots_insert, h.mem_slots_iff, Finset.mem_insert, Prod.mk.injEq]

/-- Retracting takes the pair away. -/
theorem retract (h : postings.Represents pairs) (term : String) (slot : Slot) :
    (postings.retract term slot).1.Represents (pairs.erase (term, slot)) where
  allNonempty := allNonempty_retract h.allNonempty term slot
  mem_slots_iff := by
    intro term' slot'
    rw [mem_slots_retract, h.mem_slots_iff, Finset.mem_erase, ne_eq, Prod.mk.injEq, and_comm]

/-- A change does to the postings what it does to the pairs. -/
theorem apply (h : postings.Represents pairs) (change : PostingChange) :
    (postings.apply change).Represents (change.onPairs pairs) := by
  cases change with
  | insert term slot => exact h.insert term slot
  | retract term slot => exact h.retract term slot
  | clear => exact empty

/-- A list of changes made to the postings is the same list made to the pairs; by induction on the
list. -/
theorem foldl_apply (h : postings.Represents pairs) (changes : List PostingChange) :
    (changes.foldl Postings.apply postings).Represents
      (changes.foldl PostingChange.onPairs pairs) := by
  induction changes generalizing postings pairs with
  | nil => exact h
  | cons change rest ih => exact ih (h.apply change)

end Represents

/-- After any changes the postings hold exactly the pairs that the changes make. -/
theorem represents_after (changes : List PostingChange) :
    (after changes).Represents (pairsAfter changes) :=
  Represents.empty.foldl_apply changes

/-! ## Answers about terms -/

/-- A retraction says whether the slot was listed. -/
theorem retract_snd {postings : Postings} {term : String} {slot : Slot} :
    (postings.retract term slot).2 = true ↔ slot ∈ postings.slots term := by
  rw [mem_slots_iff, retract]
  cases postings.find? term with
  | none => simp
  | some slots =>
    simp only [Option.some.injEq, exists_eq_left']
    split <;> simp

namespace Represents

variable {postings : Postings} {pairs : Finset (String × Slot)}

/-- A term has no list exactly when it is in no pair. -/
theorem find?_eq_none_iff (h : postings.Represents pairs) (term : String) :
    postings.find? term = none ↔ ∀ slot, (term, slot) ∉ pairs := by
  rw [← Option.not_isSome_iff_eq_none, h.allNonempty.isSome_find?_iff, not_exists]
  exact forall_congr' fun slot => not_congr (h.mem_slots_iff term slot)

/-- The slots under a term are those that are paired with it. -/
theorem mem_slots_iff_mem_slotsPaired (h : postings.Represents pairs) (term : String)
    (slot : Slot) : slot ∈ postings.slots term ↔ slot ∈ slotsPaired pairs (· == term) := by
  rw [h.mem_slots_iff, mem_slotsPaired_beq]

/-- The list of a term is the slots paired with it, in ascending order. -/
theorem slots_eq_sort (h : postings.Represents pairs) {term : String} {slots : SlotSet}
    (hfind : postings.find? term = some slots) :
    slots.slots = (slotsPaired pairs (· == term)).sort (· ≤ ·) := by
  have hslots : postings.slots term = slots := by
    rw [Postings.slots, hfind, Option.getD_some]
  rw [← hslots]
  exact SlotSet.slots_eq_sort (h.mem_slots_iff_mem_slotsPaired term)

/-- A retraction says whether the pair was there. -/
theorem retract_snd_iff (h : postings.Represents pairs) (term : String) (slot : Slot) :
    (postings.retract term slot).2 = true ↔ (term, slot) ∈ pairs := by
  rw [retract_snd, h.mem_slots_iff]

/-! ## Counts -/

/-- The frequency of a term is the number of slots paired with it. -/
theorem frequency_eq (h : postings.Represents pairs) (term : String) :
    postings.frequency term = (slotsPaired pairs (· == term)).card :=
  SlotSet.size_eq_card (h.mem_slots_iff_mem_slotsPaired term)

/-- The number of pairs with a term is the number of slots that are paired with it. -/
theorem card_slotsPaired_beq (pairs : Finset (String × Slot)) (term : String) :
    (slotsPaired pairs (· == term)).card = (pairs.filter fun pair => pair.1 = term).card := by
  have hfilter : (pairs.filter fun pair => (pair.1 == term) = true) =
      pairs.filter fun pair => pair.1 = term :=
    Finset.filter_congr fun pair _ => beq_iff_eq
  rw [slotsPaired, hfilter]
  apply Finset.card_image_of_injOn
  intro first hfirst second hsecond heq
  rw [Finset.mem_coe, Finset.mem_filter] at hfirst hsecond
  exact Prod.ext (hfirst.2.trans hsecond.2.symm) heq

/-- The terms with a list are those of the pairs. -/
theorem mem_keys_iff (h : postings.Represents pairs) (term : String) :
    term ∈ postings.lists.keys ↔ ∃ slot, (term, slot) ∈ pairs := by
  rw [h.allNonempty.mem_keys_iff]
  exact exists_congr fun slot => h.mem_slots_iff term slot

/-- As a set, the terms with a list are the first components of the pairs. -/
theorem toFinset_keys (h : postings.Represents pairs) :
    postings.lists.keys.toFinset = pairs.image Prod.fst := by
  ext term
  rw [List.mem_toFinset, h.mem_keys_iff, Finset.mem_image]
  simp only [Prod.exists, exists_and_right, exists_eq_right]

/-- The terms are counted once each. -/
theorem termCount_eq (h : postings.Represents pairs) :
    postings.termCount = (pairs.image Prod.fst).card := by
  rw [termCount_eq_card, h.toFinset_keys]

/-- The pairs are counted term by term. -/
theorem total_eq (h : postings.Represents pairs) : postings.total = pairs.card := by
  calc
    postings.total
    _ = (postings.lists.keys.map postings.frequency).sum :=
      total_eq_sum_frequency postings
    _ = ∑ term ∈ pairs.image Prod.fst, postings.frequency term := by
      rw [← h.toFinset_keys, List.sum_toFinset _ postings.lists.nodup_keys]
    _ = ∑ term ∈ pairs.image Prod.fst, (pairs.filter fun pair => pair.1 = term).card :=
      Finset.sum_congr rfl fun term _ => by rw [h.frequency_eq, card_slotsPaired_beq]
    _ = pairs.card := (Finset.card_eq_sum_card_image Prod.fst pairs).symm

end Represents

/-! ## Answers from all terms, in the order of a listing -/

/-- All slots under the terms that pass a test, in the order of a listing. -/
def unionOver (accept : String → Bool) (listing : List (String × SlotSet)) : SlotSet :=
  listing.foldl (fun found (term, slots) => if accept term then found.union slots else found)
    .empty

/-- The first terms that begin with a text and are longer: they are picked from a listing, sorted,
and cut. -/
def completionsOver (beginning : String) (limit : Nat) (listing : List (String × SlotSet)) :
    List String :=
  (Table.sorted ((listing.map Prod.fst).filter fun term =>
    goesOn beginning.toList term.toList)).take limit

/-- The order of a listing does not matter to the union. -/
theorem unionOver_eq_of_perm {postings : Postings} {listing : List (String × SlotSet)}
    (h : listing.Perm postings.lists.entries) (accept : String → Bool) :
    unionOver accept listing = postings.unionMatching accept := by
  apply SlotSet.ext
  intro slot
  rw [unionOver, unionMatching, mem_foldl_union, mem_foldl_union]
  simp only [h.mem_iff]

/-- Sorting finds the one ascending order of keys that are all different. -/
theorem sorted_eq_of_perm {keys ascending : List String} (h : keys.Perm ascending)
    (hascending : ascending.Pairwise fun a b => compare a b = .lt) :
    Table.sorted keys = ascending := by
  refine List.Perm.eq_of_pairwise ?_ (Table.pairwise_sorted keys)
    (hascending.imp fun hlt => by rw [hlt]; rfl) ((Table.perm_sorted keys).trans h)
  intro a b _ _ hab hba
  exact Std.LawfulEqOrd.eq_of_compare (Std.OrientedCmp.isLE_antisymm hab hba)

/-- The order of a listing does not matter to the completions. -/
theorem completionsOver_eq_of_perm {postings : Postings} {listing : List (String × SlotSet)}
    (h : listing.Perm postings.lists.entries) (beginning : String) (limit : Nat) :
    completionsOver beginning limit listing = postings.completions beginning limit := by
  have hpicked := (h.map Prod.fst).filter fun term => goesOn beginning.toList term.toList
  rw [completionsOver, sorted_eq_of_perm hpicked (postings.lists.ascending_keys.filter _)]
  rfl

namespace Represents

variable {postings : Postings} {pairs : Finset (String × Slot)}

/-- The union over the accepted terms is the slots paired with any of them, in ascending order. -/
theorem unionMatching_eq_sort (h : postings.Represents pairs) (accept : String → Bool) :
    (postings.unionMatching accept).slots = (slotsPaired pairs accept).sort (· ≤ ·) := by
  apply SlotSet.slots_eq_sort
  intro slot
  rw [mem_unionMatching, mem_slotsPaired]
  simp only [h.mem_slots_iff]

/-- A continuation of a text is a term of some pair that begins with the text and is longer. -/
theorem mem_continuations_iff (h : postings.Represents pairs) (beginning term : String) :
    term ∈ postings.continuations beginning ↔
      (∃ slot, (term, slot) ∈ pairs) ∧ beginning.toList <+: term.toList ∧ term ≠ beginning := by
  rw [continuations, List.mem_filter, h.mem_keys_iff, goesOn_iff, ne_eq, String.toList_inj]

end Represents

/-- Every answer after any changes is the one that the set of pairs gives: what is under a term, in
ascending order; whether there was something to take away; the counts; and, in whatever order the
entries are listed, the slots under the terms that pass a test and the first terms that go on behind
a text. -/
theorem answers_from_pairs (changes : List PostingChange) :
    (∀ term, (after changes).find? term = none ↔ ∀ slot, (term, slot) ∉ pairsAfter changes) ∧
      (∀ term slots, (after changes).find? term = some slots →
        slots.slots = (slotsPaired (pairsAfter changes) (· == term)).sort (· ≤ ·)) ∧
      (∀ term slot, ((after changes).retract term slot).2 = true ↔
        (term, slot) ∈ pairsAfter changes) ∧
      (∀ term, (after changes).frequency term =
        (slotsPaired (pairsAfter changes) (· == term)).card) ∧
      (after changes).termCount = ((pairsAfter changes).image Prod.fst).card ∧
      (after changes).total = (pairsAfter changes).card ∧
      (∀ accept, (after changes).unionMatching accept =
          unionOver accept (after changes).lists.entries ∧
        ∀ listing, listing.Perm (after changes).lists.entries →
          (unionOver accept listing).slots =
            (slotsPaired (pairsAfter changes) accept).sort (· ≤ ·)) ∧
      ∀ beginning, ∃ ascending : List String,
        (∀ term, term ∈ ascending ↔ (∃ slot, (term, slot) ∈ pairsAfter changes) ∧
          beginning.toList <+: term.toList ∧ term ≠ beginning) ∧
        ascending.Pairwise (fun a b => Text.bytes a < Text.bytes b) ∧
        ∀ limit, (after changes).completions beginning limit = ascending.take limit ∧
          ∀ listing, listing.Perm (after changes).lists.entries →
            completionsOver beginning limit listing = ascending.take limit := by
  have h := represents_after changes
  refine ⟨h.find?_eq_none_iff, fun _ _ => h.slots_eq_sort, h.retract_snd_iff, h.frequency_eq,
    h.termCount_eq, h.total_eq, ?_, ?_⟩
  · intro accept
    refine ⟨rfl, fun listing hlisting => ?_⟩
    rw [unionOver_eq_of_perm hlisting, h.unionMatching_eq_sort]
  · intro beginning
    refine ⟨(after changes).continuations beginning, h.mem_continuations_iff beginning,
      pairwise_bytes_continuations _ _, fun limit => ⟨rfl, fun listing hlisting => ?_⟩⟩
    rw [completionsOver_eq_of_perm hlisting, completions_eq_take]

end Postings
end TextSearch
