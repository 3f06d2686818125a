import TextSearch.Proofs.Index.Soundness

/-!
# The survivors of a history

Most of what a history does is undone by its later changes.  What survives is a list of documents:
each live one in its last version, in the order in which these versions were added.

Main results:

- Theorem `holds_after`: an index holds exactly the survivors of its history, in their
  order.
- Theorem `survivors_map_add`: adding the survivors of a history once each is a history with the
  same survivors.
- Theorems `survivors_add_remove` and `survivors_update_update`: two pairs of changes of which one
  undoes or repeats the other.
-/

namespace TextSearch

/-! ## Survivors -/

/-- Add a document at the end, in place of the one with its identifier. -/
def Document.putLast (live : List Document) (document : Document) : List Document :=
  live.filter (fun d => d.id ≠ document.id) ++ [document]

/-- What a change makes of the live documents. -/
def Change.survive (live : List Document) : Change → List Document
  | .add document => if document.isAddressable then Document.putLast live document else live
  | .update document => if document.isAddressable then Document.putLast live document else live
  | .addAll documents =>
    if documents.all Document.isAddressable then documents.foldl Document.putLast live else live
  | .remove id => live.filter fun d => d.id ≠ id
  | .clear => []

/-- The live documents after a history, each in its last version, in the order in which these
versions were added. -/
def survivors (changes : List Change) : List Document :=
  changes.foldl Change.survive []

/-- Documents that an index can hold together: each has an address, and no two have the same. -/
structure Compatible (live : List Document) : Prop where
  addressable : ∀ document ∈ live, document.isAddressable = true
  distinct : live.Pairwise fun a b => a.id ≠ b.id

namespace Compatible

theorem nil : Compatible [] where
  addressable := by
    intro document h
    contradiction
  distinct := List.Pairwise.nil

/-- Documents stay compatible when some are left out. -/
theorem filter {live : List Document} (h : Compatible live) (keep : Document → Bool) :
    Compatible (live.filter keep) where
  addressable := by
    intro document hmem
    exact h.addressable document (List.mem_filter.mp hmem).1
  distinct := h.distinct.filter _

/-- Documents stay compatible when one with an id is put last in place of its namesake. -/
theorem putLast {live : List Document} (h : Compatible live) {document : Document}
    (haddressable : document.isAddressable = true) :
    Compatible (Document.putLast live document) where
  addressable := by
    intro d hmem
    rw [Document.putLast, List.mem_append, List.mem_singleton] at hmem
    rcases hmem with hmem | rfl
    · exact h.addressable d (List.mem_filter.mp hmem).1
    · exact haddressable
  distinct := by
    rw [Document.putLast, List.pairwise_append]
    refine ⟨h.distinct.filter _, List.pairwise_singleton _ _, ?_⟩
    intro d hd d' hd'
    rw [List.mem_singleton] at hd'
    rw [hd']
    simpa using (List.mem_filter.mp hd).2

/-- Documents stay compatible when several with ids are put last in turn. -/
theorem foldl_putLast {live documents : List Document} (h : Compatible live)
    (hall : ∀ document ∈ documents, document.isAddressable = true) :
    Compatible (documents.foldl Document.putLast live) := by
  induction documents generalizing live with
  | nil => exact h
  | cons document rest ih =>
    have hhead := hall document List.mem_cons_self
    exact ih (h.putLast hhead) fun d hd => hall d (List.mem_cons_of_mem _ hd)

/-- Documents stay compatible under every change. -/
theorem survive {live : List Document} (h : Compatible live) (change : Change) :
    Compatible (change.survive live) := by
  have hadd : ∀ document : Document, Compatible
      (if document.isAddressable then Document.putLast live document else live) := by
    intro document
    split
    · rename_i haddressable
      exact h.putLast haddressable
    · exact h
  cases change with
  | add document => exact hadd document
  | update document => exact hadd document
  | addAll documents =>
    rw [Change.survive]
    split
    · rename_i hall
      exact h.foldl_putLast (List.all_eq_true.mp hall)
    · exact h
  | remove id => exact h.filter _
  | clear => exact nil

end Compatible

/-- The survivors of a history have addresses, and no two have the same. -/
theorem compatible_survivors (changes : List Change) : Compatible (survivors changes) := by
  rw [survivors]
  exact List.foldlRecOn changes Change.survive Compatible.nil fun live h change _ =>
    h.survive change

/-- Documents that are compatible with all before them end up behind them. -/
theorem foldl_survive_map_add {live documents : List Document}
    (h : Compatible (live ++ documents)) :
    (documents.map Change.add).foldl Change.survive live = live ++ documents := by
  induction documents generalizing live with
  | nil => simp
  | cons document rest ih =>
    have haddressable : document.isAddressable = true :=
      h.addressable document (by simp)
    have hfilter : (live.filter fun d => d.id ≠ document.id) = live := by
      rw [List.filter_eq_self]
      intro d hd
      simpa using (List.pairwise_append.mp h.distinct).2.2 d hd document List.mem_cons_self
    have hstep : Change.survive live (.add document) = live ++ [document] := by
      rw [Change.survive, if_pos haddressable, Document.putLast, hfilter]
    have hrest : Compatible ((live ++ [document]) ++ rest) := by
      rw [List.append_assoc]
      exact h
    rw [List.map_cons, List.foldl_cons, hstep, ih hrest, List.append_assoc]
    rfl

/-- The survivors of a history survive when they are added once each. -/
theorem survivors_map_add (changes : List Change) :
    survivors ((survivors changes).map Change.add) = survivors changes := by
  have hcompatible : Compatible ([] ++ survivors changes) := compatible_survivors changes
  exact foldl_survive_map_add hcompatible

/-- The survivors of a longer history are those of its beginning, carried through the rest. -/
theorem survivors_append (changes later : List Change) :
    survivors (changes ++ later) = later.foldl Change.survive (survivors changes) := by
  rw [survivors, List.foldl_append]
  rfl

/-- A document that is added where none had its identifier, and removed again, leaves no trace. -/
theorem survivors_add_remove (changes : List Change) {document : Document}
    (h : ∀ d ∈ survivors changes, d.id ≠ document.id) :
    survivors (changes ++ [.add document, .remove document.id]) = survivors changes := by
  have hfilter : ((survivors changes).filter fun d => d.id ≠ document.id) = survivors changes := by
    rw [List.filter_eq_self]
    intro d hd
    simpa using h d hd
  rw [survivors_append, List.foldl_cons, List.foldl_cons, List.foldl_nil]
  simp only [Change.survive]
  split
  · rw [Document.putLast, List.filter_append, hfilter, hfilter]
    simp
  · exact hfilter

/-- Updating twice with one document is updating once. -/
theorem survivors_update_update (changes : List Change) (document : Document) :
    survivors (changes ++ [.update document, .update document]) =
      survivors (changes ++ [.update document]) := by
  rw [survivors_append, survivors_append]
  simp only [List.foldl_cons, List.foldl_nil, Change.survive]
  split
  · simp [Document.putLast, List.filter_append, List.filter_filter]
  · rfl

/-! ## What an index holds -/

/-- A key greater than all keys of a list goes to its end. -/
theorem Table.insertEntry_eq_append {κ α : Type} [Ord κ] [Std.OrientedOrd κ] (k : κ) (v : α)
    {entries : List (κ × α)} (h : ∀ e ∈ entries, compare e.1 k = .lt) :
    insertEntry k v entries = entries ++ [(k, v)] := by
  induction entries with
  | nil => rfl
  | cons head rest ih =>
    rcases head with ⟨k', v'⟩
    have hgt : compare k k' = .gt := Std.OrientedCmp.gt_iff_lt.mpr (h (k', v') List.mem_cons_self)
    rw [insertEntry, hgt]
    simp only [List.cons_append]
    rw [ih fun e he => h e (List.mem_cons_of_mem _ he)]

namespace Index

/-- Removing an identifier deletes the documents with it and leaves the others in their order. -/
theorem Sound.entries_remove {index : Index} (h : index.Sound) (id : String) :
    (index.remove id).1.entries.entries =
      index.entries.entries.filter fun e => e.2.document.id ≠ id := by
  have hfind : ∀ e ∈ index.entries.entries, index.entryAt? e.1 = some e.2 := by
    intro e he
    exact (Table.find?_eq_some_iff index.entries e.1 e.2).mpr he
  have hself (hnone : ∀ e ∈ index.entries.entries, e.2.document.id ≠ id) :
      index.entries.entries =
        index.entries.entries.filter fun e => e.2.document.id ≠ id := by
    symm
    rw [List.filter_eq_self]
    intro e he
    simpa using hnone e he
  unfold remove
  split
  · rename_i hnone
    refine hself fun e he hid => ?_
    rw [← hid, h.slotOf?_eq_some (hfind e he)] at hnone
    contradiction
  · rename_i slot hslot
    rcases (h.registered id slot).mp hslot with ⟨entry, hentry, hid⟩
    split
    · rename_i hnone
      rw [hentry] at hnone
      contradiction
    · simp only [Table.erase]
      refine List.filter_congr fun e he => ?_
      have hiff : compare slot e.1 = .eq ↔ e.2.document.id = id := by
        rw [Std.LawfulEqOrd.compare_eq_iff_eq]
        constructor
        · intro heq
          have hfound := hfind e he
          rw [← heq, hentry] at hfound
          rw [← Option.some.inj hfound, hid]
        · intro heq
          have hfound := h.slotOf?_eq_some (hfind e he)
          rw [heq, hslot] at hfound
          exact Option.some.inj hfound
      by_cases hc : compare slot e.1 = .eq
      · simp [hc, hiff.mp hc]
      · simp [hc, mt hiff.mpr hc]

/-- A new document comes last. -/
theorem Sound.entries_insert {index : Index} (h : index.Sound) (document : Document) :
    (index.insert document.analyze).entries.entries =
      (index.entries.entries.filter fun e => e.2.document.id ≠ document.id) ++
        [(index.nextSlot, document.analyze)] := by
  have hremoved := sound_remove h document.id
  have hlast : ∀ e ∈ (index.remove document.id).1.entries.entries,
      compare e.1 (index.remove document.id).1.nextSlot = .lt := by
    intro e he
    rw [Nat.compare_eq_lt]
    exact hremoved.below e.1 e.2 ((Table.find?_eq_some_iff _ e.1 e.2).mpr he)
  simp only [insert, Table.insert, Document.document_analyze]
  rw [Table.insertEntry_eq_append _ _ hlast, h.entries_remove, nextSlot_remove]

/-- The index is sound and holds exactly the given documents, in their order. -/
structure Holds (index : Index) (live : List Document) : Prop where
  sound : index.Sound
  values_eq : index.entries.values = live.map Document.analyze

namespace Holds

variable {index : Index} {live : List Document}

theorem empty : Index.empty.Holds [] where
  sound := sound_empty
  values_eq := rfl

/-- The entries with other identifiers are those of the documents with other identifiers. -/
theorem map_filter_entries (h : index.Holds live) (id : String) :
    (index.entries.entries.filter fun e => e.2.document.id ≠ id).map (·.2) =
      (live.filter fun d => d.id ≠ id).map Document.analyze := by
  calc
    (index.entries.entries.filter fun e => e.2.document.id ≠ id).map (·.2)
    _ = index.entries.values.filter fun entry => entry.document.id ≠ id := by
      rw [Table.values, List.filter_map]
      rfl
    _ = (live.map Document.analyze).filter fun entry => entry.document.id ≠ id := by
      rw [h.values_eq]
    _ = (live.filter fun d => d.id ≠ id).map Document.analyze := by
      rw [List.filter_map]
      rfl

/-- Removing an id leaves the documents of the other ids, in their order. -/
theorem remove (h : index.Holds live) (id : String) :
    (index.remove id).1.Holds (live.filter fun d => d.id ≠ id) where
  sound := sound_remove h.sound id
  values_eq := by
    rw [Table.values, h.sound.entries_remove]
    exact h.map_filter_entries id

/-- Inserting puts the document last and drops the one it replaces. -/
theorem insert (h : index.Holds live) (document : Document) :
    (index.insert document.analyze).Holds (Document.putLast live document) where
  sound := sound_insert h.sound document
  values_eq := by
    rw [Table.values, h.sound.entries_insert, Document.putLast, List.map_append, List.map_append]
    rw [h.map_filter_entries]
    rfl

/-- Inserting a batch puts its documents last one after another; by induction on the batch. -/
theorem insertAll (h : index.Holds live) (documents : List Document) :
    (index.insertAll (documents.map Document.analyze)).Holds
      (documents.foldl Document.putLast live) := by
  unfold Index.insertAll
  induction documents generalizing index live with
  | nil => exact h
  | cons document rest ih => exact ih (h.insert document)

/-- A change does to the index what it does to the live documents. -/
theorem apply (h : index.Holds live) (change : Change) :
    (index.apply change).Holds (change.survive live) := by
  cases change with
  | add document =>
    rw [apply_add, Change.survive]
    split
    · exact h.insert document
    · exact h
  | update document =>
    rw [apply_update, apply_add, Change.survive]
    split
    · exact h.insert document
    · exact h
  | addAll documents =>
    rw [apply_addAll, Change.survive]
    split
    · exact h.insertAll documents
    · exact h
  | remove id => exact h.remove id
  | clear => exact ⟨sound_clear index, rfl⟩

end Holds

/-- An index holds exactly the survivors of its history, in the order of their last additions. -/
theorem holds_after (changes : List Change) : (after changes).Holds (survivors changes) := by
  rw [after, survivors]
  suffices hrun : ∀ index live, Holds index live →
      (changes.foldl apply index).Holds (changes.foldl Change.survive live) from
    hrun _ _ Holds.empty
  induction changes with
  | nil =>
    intro index live h
    exact h
  | cons change rest ih =>
    intro index live h
    exact ih _ _ (h.apply change)

end Index
end TextSearch
