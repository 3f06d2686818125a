import TextSearch.Proofs.Index.Batches
import TextSearch.Service.Worker

/-!
# What a line changes

A line is carried out wholly or not at all.  The only lines that change an engine hold index
requests that succeed, and each of them does what one operation of the engine does; this holds for a
batch too, which is added in chunks with responses between them.

Main results:

- Theorem `settles_change`: an action of a worker does what the operation of the engine does, and
  tells of it truly.
- Theorem `handled`: the ways in which a line is handled.
- Theorem `foldlM_performed`: after any lines, the engine is what the actions that succeeded make of
  the first engine.
- Theorem `changes_are_performed`: all that a line can change.
-/

namespace TextSearch

namespace Engine

/-- Carry out an action by the operation of the engine that is meant for it. -/
def perform (engine : Engine) : IndexAction → Except IndexError Engine
  | .add document => engine.add document
  | .update document => engine.update document
  | .remove id => .ok (engine.remove id).1
  | .addMany documents => (engine.addAll documents).map Prod.fst
  | .clear => .ok engine.clear

/-- A batch of documents that can all be addressed is put in. -/
theorem addAll_of_all (engine : Engine) {documents : List Document}
    (hall : documents.all Document.isAddressable = true) :
    engine.addAll documents =
      .ok ({ engine with index := engine.index.insertAll (documents.map Document.analyze) },
        documents.length) := by
  rw [addAll, engine.index.addAll_of_all hall]
  rfl

/-- A batch is refused if one of its documents cannot be addressed. -/
theorem addAll_of_not_all (engine : Engine) {documents : List Document}
    (hnot : documents.all Document.isAddressable = false) :
    engine.addAll documents = .error .missingDocumentId := by
  rw [addAll, engine.index.addAll_of_not_all hnot]
  rfl

/-- Removing a document that is not there changes nothing. -/
theorem remove_of_not_contains {engine : Engine} {id : String}
    (h : engine.contains id = false) : engine.remove id = (engine, false) := by
  have hslot : engine.index.slotOf? id = none := by
    simpa [contains, Index.contains, Table.contains, Index.slotOf?] using h
  have hindex : engine.index.remove id = (engine.index, false) := by
    rw [Index.remove, hslot]
  rw [remove, hindex]

end Engine

namespace Worker

/-! ## Actions -/

/-- The effect is that of an operation of the engine: what was done is told as a success, and what
was refused is told as a failure and has changed nothing. -/
def Effect.Settles (effect : Effect) (engine : Engine) : Except IndexError Engine → Prop
  | .ok changed => effect.engine = changed ∧ ∃ payload, effect.result = .ok payload
  | .error error => effect.engine = engine ∧ effect.result = .error (.refused error)

/-- An effect made from an outcome settles as the outcome says. -/
theorem settles_ofChange (engine : Engine) (payload : Json) (outcome : Except IndexError Engine) :
    (Effect.ofChange engine payload outcome).Settles engine outcome := by
  cases outcome with
  | ok changed => exact ⟨rfl, payload, rfl⟩
  | error error => exact ⟨rfl, rfl⟩

/-- What holds of all documents of a batch holds of its first chunk and of the rest. -/
theorem all_take_drop {documents : List Document} {p : Document → Bool} (n : Nat)
    (h : documents.all p = true) :
    (documents.take n).all p = true ∧ (documents.drop n).all p = true := by
  rw [← Bool.and_eq_true, ← List.all_append, List.take_append_drop]
  exact h

/-- Chunks of documents that can all be addressed are put in one after the other, and none of them
is refused. -/
theorem addChunks_of_all (id : Json) (interval total added : Nat) (engine : Engine)
    (sent : List Response) {documents : List Document}
    (hall : documents.all Document.isAddressable = true) :
    (addChunks id interval total added engine sent documents).engine =
        { engine with index := engine.index.insertAll (documents.map Document.analyze) } ∧
      (addChunks id interval total added engine sent documents).result =
        .ok (indexed (added + documents.length)) := by
  fun_induction addChunks id interval total added engine sent documents with
  | case1 added engine sent => exact ⟨rfl, rfl⟩
  | case2 added engine sent first rest error hrefused =>
    rw [engine.addAll_of_all (all_take_drop _ hall).1] at hrefused
    contradiction
  | case3 added engine sent first rest changed count hadded added' sent' ih =>
    have hchunk := hadded
    rw [engine.addAll_of_all (all_take_drop _ hall).1, Except.ok.injEq, Prod.mk.injEq] at hchunk
    rcases hchunk with ⟨rfl, rfl⟩
    rcases ih (all_take_drop _ hall).2 with ⟨hengine, hresult⟩
    constructor
    · rw [hengine, ← Index.insertAll_append, ← List.map_append, List.take_append_drop]
    · rw [hresult, Nat.add_assoc, ← List.length_append, List.take_append_drop]

/-- A batch is added as a whole, however large the chunks are. -/
theorem settles_addMany (worker : Worker) (id : Json) (documents : List Document) :
    (worker.addMany id documents).Settles worker.engine
      (worker.engine.perform (.addMany documents)) := by
  rw [addMany, Engine.perform]
  cases hall : documents.all Document.isAddressable with
  | false =>
    rw [worker.engine.addAll_of_not_all hall]
    exact ⟨rfl, rfl⟩
  | true =>
    rw [if_neg (by simp)]
    cases worker.progressInterval with
    | zero => exact settles_ofChange _ _ _
    | succ interval =>
      rcases addChunks_of_all id interval documents.length 0 worker.engine [] hall with
        ⟨hengine, hresult⟩
      rw [worker.engine.addAll_of_all hall]
      exact ⟨hengine, _, hresult⟩

/-- An action of a worker does what the operation of the engine does, and tells of it truly. -/
theorem settles_change (worker : Worker) (id : Json) (action : IndexAction) :
    (worker.change id action).Settles worker.engine (worker.engine.perform action) := by
  cases action with
  | add document => exact settles_ofChange _ _ _
  | update document => exact settles_ofChange _ _ _
  | remove documentId => exact ⟨rfl, _, rfl⟩
  | addMany documents => exact settles_addMany worker id documents
  | clear => exact ⟨rfl, _, rfl⟩

/-! ## Lines -/

/-- The action that a request asks for; only index requests can ask for one. -/
def requestedAction? (now : Timestamp) (request : Request) : Option IndexAction :=
  if request.kind = "index" then
    (decode "index" (IndexAction.decoder now) request.payload).toOption
  else none

/-- The action that a line asks for. -/
def action? (now : Timestamp) (line : String) : Option IndexAction :=
  match Request.ofText line with
  | .ok request => requestedAction? now request
  | .error _ => none

/-- The kind of the last response to a line. -/
def answer? (worker : Worker) (now : Timestamp) (line : String) : Option ResponseKind :=
  (worker.handleLine now line).2.getLast?.map Response.kind

section

variable {now : Timestamp} {request : Request} {line : String} {action : IndexAction}

/-- A request asks for an action when its kind is `index` and its payload decodes to the action. -/
theorem requestedAction?_eq_some_iff :
    requestedAction? now request = some action ↔
      request.kind = "index" ∧
        decode "index" (IndexAction.decoder now) request.payload = .ok action := by
  rw [requestedAction?]
  split
  · rename_i hindex
    rw [and_iff_right hindex]
    cases decode "index" (IndexAction.decoder now) request.payload with
    | ok found => simp [Except.toOption]
    | error error => simp [Except.toOption]
  · rename_i hother
    simp [hother]

/-- A line asks for an action when its request does. -/
theorem action?_eq_some_iff :
    action? now line = some action ↔
      ∃ request, Request.ofText line = .ok request ∧
        requestedAction? now request = some action := by
  rw [action?]
  cases Request.ofText line with
  | ok request => simp
  | error error => simp

/-- A request for an action has the effect of the change. -/
theorem effect_of_requestedAction?_eq_some (worker : Worker)
    (h : requestedAction? now request = some action) :
    worker.effect now request = worker.change request.id action := by
  rcases requestedAction?_eq_some_iff.mp h with ⟨hindex, hdecoded⟩
  rw [effect, if_neg (by rw [hindex]; decide), if_pos hindex, index, hdecoded]

/-- Requests that ask for no action leave the engine as it is, whether they succeed or not, and are
answered once. -/
theorem exists_effect_eq_unchanged (worker : Worker)
    (h : requestedAction? now request = none) :
    ∃ result, worker.effect now request = .unchanged worker.engine result := by
  rw [effect]
  split
  · exact ⟨_, rfl⟩
  · split
    · rename_i hindex
      rw [requestedAction?, if_pos hindex] at h
      rw [index]
      revert h
      cases decode "index" (IndexAction.decoder now) request.payload with
      | ok found => exact fun h => nomatch h
      | error error => exact fun _ => ⟨_, rfl⟩
    · split
      · exact ⟨_, rfl⟩
      · split <;> exact ⟨_, rfl⟩

/-- Any other request leaves the engine as it is. -/
theorem engine_effect_of_requestedAction?_eq_none (worker : Worker)
    (h : requestedAction? now request = none) :
    (worker.effect now request).engine = worker.engine := by
  obtain ⟨result, hresult⟩ := exists_effect_eq_unchanged worker h
  rw [hresult, Effect.unchanged]

/-- The answer to a line with a request is the last response of the request's effect. -/
theorem answer?_of_ofText (worker : Worker) (now : Timestamp)
    (h : Request.ofText line = .ok request) :
    worker.answer? now line =
      some (lastResponse request.id (worker.effect now request).result).kind := by
  rw [answer?, handleLine, h]
  simp [handle]

end

/-- What a line does: nothing to the engine, unless it asks for an action; then the operation of the
engine is carried out or refused as a whole, and the last response tells which. -/
inductive Handled (worker : Worker) (now : Timestamp) (line : String) : Prop
  | idle : action? now line = none →
    (worker.handleLine now line).1.engine = worker.engine → Handled worker now line
  | performed {action : IndexAction} : action? now line = some action →
    worker.engine.perform action = .ok (worker.handleLine now line).1.engine →
    worker.answer? now line = some .success → Handled worker now line
  | refused {action : IndexAction} {error : IndexError} : action? now line = some action →
    worker.engine.perform action = .error error →
    (worker.handleLine now line).1.engine = worker.engine →
    worker.answer? now line = some .error → Handled worker now line

/-- Every line is handled in one of these ways. -/
theorem handled (worker : Worker) (now : Timestamp) (line : String) :
    worker.Handled now line := by
  cases hrequest : Request.ofText line with
  | error error =>
    refine .idle ?_ ?_
    · rw [action?, hrequest]
    · rw [handleLine, hrequest]
  | ok request =>
    have hline : action? now line = requestedAction? now request := by
      rw [action?, hrequest]
    have hengine : (worker.handleLine now line).1.engine = (worker.effect now request).engine := by
      rw [handleLine, hrequest]
      rfl
    have hanswer := answer?_of_ofText worker now hrequest
    cases haction : requestedAction? now request with
    | none =>
      rw [engine_effect_of_requestedAction?_eq_none worker haction] at hengine
      exact .idle (hline.trans haction) hengine
    | some action =>
      have hsettles := settles_change worker request.id action
      rw [← effect_of_requestedAction?_eq_some worker haction] at hsettles
      cases hperform : worker.engine.perform action with
      | ok changed =>
        rw [hperform] at hsettles
        rcases hsettles with ⟨hchanged, payload, hresult⟩
        rw [hchanged] at hengine
        rw [hresult] at hanswer
        rw [← hengine] at hperform
        exact .performed (hline.trans haction) hperform hanswer
      | error error =>
        rw [hperform] at hsettles
        rcases hsettles with ⟨hunchanged, hresult⟩
        rw [hunchanged] at hengine
        rw [hresult] at hanswer
        exact .refused (hline.trans haction) hperform hengine hanswer

/-! ## Sessions -/

/-- The worker after some lines, each of which comes at a moment. -/
def after (worker : Worker) (lines : List (Timestamp × String)) : Worker :=
  lines.foldl (fun worker (now, line) => (worker.handleLine now line).1) worker

/-- The action that a line asks for, if it succeeds. -/
def performed? (worker : Worker) (now : Timestamp) (line : String) : Option IndexAction :=
  if worker.answer? now line = some .success then action? now line else none

/-- The actions that succeed, in their order. -/
def performed (worker : Worker) : List (Timestamp × String) → List IndexAction
  | [] => []
  | (now, line) :: rest =>
    (worker.performed? now line).toList ++ performed (worker.handleLine now line).1 rest

/-- One line changes the engine by the action that it performs, if it performs any. -/
theorem foldlM_performed? (worker : Worker) (now : Timestamp) (line : String) :
    (worker.performed? now line).toList.foldlM Engine.perform worker.engine =
      .ok (worker.handleLine now line).1.engine := by
  rw [performed?]
  cases worker.handled now line with
  | idle haction hengine =>
    rw [haction, ite_self, hengine]
    rfl
  | performed haction hperform hanswer =>
    rw [if_pos hanswer, haction, Option.toList_some, List.foldlM_cons, hperform]
    rfl
  | refused haction hperform hengine hanswer =>
    rw [hanswer, hengine, if_neg (by simp)]
    rfl

/-- After any lines, the engine is what the actions that succeeded make of the first engine. -/
theorem foldlM_performed (worker : Worker) (lines : List (Timestamp × String)) :
    (worker.performed lines).foldlM Engine.perform worker.engine =
      .ok (worker.after lines).engine := by
  induction lines generalizing worker with
  | nil => rfl
  | cons line rest ih =>
    rcases line with ⟨now, line⟩
    rw [performed, List.foldlM_append, foldlM_performed?]
    exact ih _

/-- A line with an error as its last response changes nothing, nor does a search, a request for
suggestions or for statistics, nor the removal of a document that is not there.  Only an index
request that succeeds changes the engine; and after any lines, the engine is what the operations of
the engine make of the first one, carried out for the actions that succeeded, in their order. -/
theorem changes_are_performed (worker : Worker) :
    (∀ now line,
      (worker.answer? now line = some .error →
        (worker.handleLine now line).1.engine = worker.engine) ∧
      (∀ request, Request.ofText line = .ok request →
        request.kind ∈ ["search", "suggest", "stats"] →
        (worker.handleLine now line).1.engine = worker.engine) ∧
      (∀ id, action? now line = some (.remove id) → worker.engine.contains id = false →
        (worker.handleLine now line).1.engine = worker.engine) ∧
      ((worker.handleLine now line).1.engine ≠ worker.engine →
        worker.answer? now line = some .success ∧
          ∃ request, Request.ofText line = .ok request ∧ request.kind = "index")) ∧
    ∀ lines, (worker.performed lines).foldlM Engine.perform worker.engine =
      .ok (worker.after lines).engine := by
  refine ⟨fun now line => ⟨?_, ?_, ?_, ?_⟩, foldlM_performed worker⟩
  · intro herror
    cases worker.handled now line with
    | idle haction hengine => exact hengine
    | performed haction hperform hanswer =>
      rw [hanswer] at herror
      contradiction
    | refused haction hperform hengine hanswer => exact hengine
  · intro request hrequest hkind
    have hother : request.kind ≠ "index" := by
      intro hindex
      rw [hindex] at hkind
      exact absurd hkind (by decide)
    rw [handleLine, hrequest]
    exact engine_effect_of_requestedAction?_eq_none worker (if_neg hother)
  · intro id hremoval habsent
    cases worker.handled now line with
    | idle haction hengine => exact hengine
    | performed haction hperform hanswer =>
      rw [hremoval, Option.some.injEq] at haction
      rw [← haction, Engine.perform, Engine.remove_of_not_contains habsent] at hperform
      exact (Except.ok.inj hperform).symm
    | refused haction hperform hengine hanswer => exact hengine
  · intro hchanged
    cases worker.handled now line with
    | idle haction hengine => exact absurd hengine hchanged
    | performed haction hperform hanswer =>
      rcases action?_eq_some_iff.mp haction with ⟨request, hrequest, hrequested⟩
      exact ⟨hanswer, request, hrequest, (requestedAction?_eq_some_iff.mp hrequested).1⟩
    | refused haction hperform hengine hanswer => exact absurd hengine hchanged

/-- A batch whose second chunk could not be addressed, and a request for statistics. -/
theorem changes_are_performed_batch :
    ∃ worker : Worker, worker = ⟨⟨Sample.index, default⟩, 1⟩ ∧
      (worker.handleLine (.ofDays 0) "[7, \"index\", [\"addMany\", [[\"a\"], [\" \"]]]]").1.engine =
        worker.engine ∧
      (worker.handleLine (.ofDays 0) "[8, \"stats\"]").1.engine = worker.engine := by
  have hlines := (changes_are_performed ⟨⟨Sample.index, default⟩, 1⟩).1
  have hstats : (Request.ofText "[8, \"stats\"]").toOption.map Request.kind = some "stats" := by
    decide +kernel
  refine ⟨_, rfl, (hlines _ _).1 (by decide +kernel), ?_⟩
  cases hrequest : Request.ofText "[8, \"stats\"]" with
  | ok request =>
    rw [hrequest] at hstats
    refine (hlines _ _).2.1 request hrequest ?_
    rw [Option.some.inj hstats]
    decide
  | error error =>
    rw [hrequest] at hstats
    contradiction

end Worker
end TextSearch
