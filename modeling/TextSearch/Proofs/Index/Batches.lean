import TextSearch.Index.Basic
import TextSearch.Sample

/-!
# Calls that are refused, and batches

The changes of an index return a new index or an error, so they cannot tell what an error leaves of
the old one.  Here they are calls that change an index in place, one step after the other: what was
done before an error stays done.  A batch is three rounds of steps over the whole list, and only the
last of them changes the index.

Main results:

- Theorems `runOn_add` and `runOn_addAll`: the calls do what the changes say, and where the changes
  say nothing, namely after an error, the index is the old one.
- Theorem `addAll_eq_foldlM`: a batch with a document that cannot be addressed changes nothing; any
  other batch does what adding its documents one at a time does.
-/

namespace TextSearch

/-- Steps on an index that is changed in place.  An error ends them, but takes nothing back. -/
abbrev Call (α : Type) :=
  ExceptT IndexError (StateM Index) α

namespace Call

variable {α β : Type}

/-- What the steps return, and the index that they leave. -/
def runOn (call : Call α) (index : Index) : Except IndexError α × Index :=
  (ExceptT.run call).run index

/-- Refuse a document that cannot be addressed. -/
def validate (document : Document) : Call Unit :=
  if document.isAddressable then pure () else throw .missingDocumentId

/-- Put an analysed document in, and tell its slot. -/
def insert (entry : Entry) : Call Slot := do
  let index ← get
  set (index.insert entry)
  return index.nextSlot

/-- Add a document, and tell its slot. -/
def add (document : Document) : Call Slot := do
  validate document
  insert document.analyze

/-- Put a new version of a document in place of the old one. -/
def update (document : Document) : Call Slot :=
  add document

/-- Check all documents of a batch, analyse all of them, and put all of them in; tell how many there
were. -/
def addAll (documents : List Document) : Call Nat := do
  documents.forM validate
  let entries := documents.map Document.analyze
  entries.forM fun entry => discard (insert entry)
  return entries.length

/-! ## Steps -/

/-- Steps go on where the steps before them were not refused. -/
theorem runOn_bind (call : Call α) (next : α → Call β) (index : Index) :
    runOn (call >>= next) index =
      match runOn call index with
      | (.ok value, changed) => runOn (next value) changed
      | (.error error, changed) => (.error error, changed) := by
  rw [runOn, runOn, ExceptT.run_bind, StateT.run_bind]
  rcases (ExceptT.run call).run index with ⟨error | value, changed⟩
  · rfl
  · rfl

/-- Validating looks at the document alone and leaves the index as it is. -/
theorem runOn_validate (document : Document) (index : Index) :
    runOn (validate document) index =
      (if document.isAddressable then .ok () else .error .missingDocumentId, index) := by
  rw [validate]
  split <;> rfl

theorem runOn_insert (entry : Entry) (index : Index) :
    runOn (insert entry) index = (.ok index.nextSlot, index.insert entry) :=
  rfl

/-- Checking documents changes nothing, and refuses them if one of them cannot be addressed. -/
theorem runOn_forM_validate (documents : List Document) (index : Index) :
    runOn (documents.forM validate) index =
      (if documents.all Document.isAddressable then .ok () else .error .missingDocumentId,
        index) := by
  induction documents with
  | nil => rfl
  | cons document rest ih =>
    rw [List.forM, runOn_bind, runOn_validate, List.all_cons]
    cases document.isAddressable with
    | false => rfl
    | true => exact ih

/-- Analysed documents are put in without refusal. -/
theorem runOn_forM_insert (entries : List Entry) (index : Index) :
    runOn (entries.forM fun entry => discard (insert entry)) index =
      (.ok (), index.insertAll entries) := by
  induction entries generalizing index with
  | nil => rfl
  | cons entry rest ih =>
    have hinsert : runOn (discard (insert entry)) index = (.ok (), index.insert entry) := rfl
    rw [List.forM, runOn_bind, hinsert]
    exact ih _

/-! ## Calls -/

/-- What a change returns, and the index that a caller has after it. -/
def settled (index : Index) : Except IndexError (Index × α) → Except IndexError α × Index
  | .ok (changed, value) => (.ok value, changed)
  | .error error => (.error error, index)

/-- A document that is refused leaves the index as it is. -/
theorem runOn_add (document : Document) (index : Index) :
    runOn (add document) index = settled index (index.add document) := by
  rw [add, runOn_bind, runOn_validate, Index.add]
  cases document.isAddressable with
  | false => rfl
  | true => exact runOn_insert document.analyze index

/-- A batch that is refused leaves the index as it is. -/
theorem runOn_addAll (documents : List Document) (index : Index) :
    runOn (addAll documents) index = settled index (index.addAll documents) := by
  rw [addAll, runOn_bind, runOn_forM_validate, Index.addAll]
  cases documents.all Document.isAddressable with
  | false => rfl
  | true =>
    rw [if_pos rfl, if_pos rfl]
    dsimp only
    rw [runOn_bind, runOn_forM_insert, List.length_map]
    rfl

end Call

namespace Index

/-! ## Batches -/

/-- Inserting two lists one after the other is inserting them joined. -/
theorem insertAll_append (index : Index) (entries others : List Entry) :
    index.insertAll (entries ++ others) = (index.insertAll entries).insertAll others :=
  List.foldl_append

/-- A batch of documents that can all be addressed is put in. -/
theorem addAll_of_all (index : Index) {documents : List Document}
    (hall : documents.all Document.isAddressable = true) :
    index.addAll documents =
      .ok (index.insertAll (documents.map Document.analyze), documents.length) := by
  rw [addAll, if_pos hall]

/-- A batch is refused if one of its documents cannot be addressed. -/
theorem addAll_of_not_all (index : Index) {documents : List Document}
    (hnot : documents.all Document.isAddressable = false) :
    index.addAll documents = .error .missingDocumentId := by
  rw [addAll, if_neg (by simp [hnot])]

/-- Documents that can all be addressed are added one at a time without refusal. -/
theorem foldlM_add (index : Index) {documents : List Document}
    (hall : documents.all Document.isAddressable = true) :
    documents.foldlM (fun index document => (index.add document).map Prod.fst) index =
      .ok (index.insertAll (documents.map Document.analyze)) := by
  induction documents generalizing index with
  | nil => rfl
  | cons document rest ih =>
    rw [List.all_cons, Bool.and_eq_true] at hall
    have hadd : (index.add document).map Prod.fst = .ok (index.insert document.analyze) := by
      rw [add, if_pos hall.1]
      rfl
    rw [List.foldlM_cons, hadd]
    exact ih _ hall.2

/-- If an identifier of a batch is blank, the batch is refused and the index stays as it is.
Otherwise its length is told, and it leaves the index that adding its documents one at a time
leaves, in order, whatever identifiers are repeated.  A document that is refused leaves the index as
it is, too. -/
theorem addAll_eq_foldlM (index : Index) (documents : List Document) :
    ((∃ document ∈ documents, Text.isAllBlank document.id = true) →
      index.addAll documents = .error .missingDocumentId ∧
        (Call.addAll documents).runOn index = (.error .missingDocumentId, index)) ∧
    ((∀ document ∈ documents, Text.isAllBlank document.id = false) →
      ∃ final, index.addAll documents = .ok (final, documents.length) ∧
        (Call.addAll documents).runOn index = (.ok documents.length, final) ∧
        documents.foldlM (fun index document => (index.add document).map Prod.fst) index =
          .ok final) ∧
    ∀ document error,
      (index.add document = .error error →
        (Call.add document).runOn index = (.error error, index)) ∧
      (index.update document = .error error →
        (Call.update document).runOn index = (.error error, index)) := by
  refine ⟨?_, ?_, ?_⟩
  · rintro ⟨document, hmem, hblank⟩
    have hnot : documents.all Document.isAddressable = false := by
      rw [List.all_eq_false]
      exact ⟨document, hmem, by simp [Document.isAddressable, hblank]⟩
    refine ⟨index.addAll_of_not_all hnot, ?_⟩
    rw [Call.runOn_addAll, index.addAll_of_not_all hnot]
    rfl
  · intro hall
    have haddressable : documents.all Document.isAddressable = true := by
      rw [List.all_eq_true]
      intro document hmem
      rw [Document.isAddressable, hall document hmem]
      rfl
    refine ⟨_, index.addAll_of_all haddressable, ?_, index.foldlM_add haddressable⟩
    rw [Call.runOn_addAll, index.addAll_of_all haddressable]
    rfl
  · intro document error
    have hadd : index.add document = .error error →
        (Call.add document).runOn index = (.error error, index) := by
      intro hrefused
      rw [Call.runOn_add, hrefused]
      rfl
    exact ⟨hadd, hadd⟩

/-- A batch with a new version of a live document, and with two versions of it; and a batch whose
last identifier is blank. -/
theorem addAll_eq_foldlM_versions :
    (∃ batch final, batch = [Sample.page "doc2" "Baking" "bread", Sample.page "doc3" "Rust" "",
        Sample.page "doc2" "Baking" "bread and cakes"] ∧
      Sample.index.addAll batch = .ok (final, 3) ∧
      (Call.addAll batch).runOn Sample.index = (.ok 3, final) ∧
      batch.foldlM (fun index document => (index.add document).map Prod.fst) Sample.index =
        .ok final) ∧
    (Call.addAll [Sample.page "doc3" "Rust" "", Sample.page " \t" "" "bread"]).runOn Sample.index =
      (.error .missingDocumentId, Sample.index) := by
  constructor
  · obtain ⟨final, hadded, hcalled, hstepwise⟩ := (addAll_eq_foldlM Sample.index
      [Sample.page "doc2" "Baking" "bread", Sample.page "doc3" "Rust" "",
        Sample.page "doc2" "Baking" "bread and cakes"]).2.1 (by decide +kernel)
    exact ⟨_, final, rfl, hadded, hcalled, hstepwise⟩
  · exact ((addAll_eq_foldlM Sample.index [Sample.page "doc3" "Rust" "",
      Sample.page " \t" "" "bread"]).1 (by decide +kernel)).2

end Index
end TextSearch
