import Mathlib
import TextSearch.Proofs.Service.Atomicity
import TextSearch.Proofs.Service.Identifiers

/-!
# What is answered

Every line gets exactly one final response, a success or an error, and it is the last one.  Only a
batch of documents that is added gets further responses: one at every multiple of the progress
interval below the number of documents, since a chunk that reaches the end of the batch is silent.

Main results:

- Theorem `sent_addChunks`: the progress that the rest of a batch tells, wherever it begins.
- Theorem `handle_batch`: what a batch is answered and what it leaves; no chunk can be told from
  the engine that it leaves.
- Theorem `sent_effect`: only a batch that is added has responses before the last one.
- Theorem `one_final_response`: the responses to any line.
-/

namespace TextSearch
namespace Worker

/-! ## The progress of a batch -/

/-- The number of multiples of the interval that are below the total, without zero.  An interval of
zero has none. -/
def milestones (interval total : Nat) : Nat :=
  (total - 1) / interval

@[simp]
theorem milestones_interval_zero (total : Nat) : milestones 0 total = 0 := by
  simp [milestones]

@[simp]
theorem milestones_total_zero (interval : Nat) : milestones interval 0 = 0 := by
  simp [milestones]

/-- The milestones are the multiples of the interval below the total. -/
theorem le_milestones_iff {interval : Nat} (hinterval : 0 < interval) (total : Nat) {i : Nat}
    (hi : 0 < i) : i ≤ milestones interval total ↔ interval * i < total := by
  have hpositive : 0 < interval * i := Nat.mul_pos hinterval hi
  rw [milestones, Nat.le_div_iff_mul_le hinterval, Nat.mul_comm i]
  omega

/-- A batch that goes on behind its first chunk has one milestone more than the rest of it. -/
theorem milestones_of_lt {interval total : Nat} (hinterval : 0 < interval)
    (h : interval < total) :
    milestones interval total = milestones interval (total - interval) + 1 := by
  have hle : interval ≤ total - 1 := by omega
  have hrest : total - 1 - interval = total - interval - 1 := by omega
  rw [milestones, milestones, Nat.div_eq_sub_div hinterval hle, hrest]

/-- A batch no longer than the interval has no milestone. -/
theorem milestones_of_le {interval total : Nat} (h : total ≤ interval) :
    milestones interval total = 0 := by
  cases total with
  | zero => simp
  | succ n =>
    rw [milestones]
    apply Nat.div_eq_of_lt
    omega

/-- The progress that a batch tells at its milestones, when so many documents have been added
before. -/
def progressFrom (id : Json) (interval total added count : Nat) : List Response :=
  (List.range' 1 count).map fun i => .progress id (added + interval * i) total

@[simp]
theorem progressFrom_zero (id : Json) (interval total added : Nat) :
    progressFrom id interval total added 0 = [] :=
  rfl

/-- The first milestone comes after one interval, and the others follow it. -/
theorem progressFrom_succ (id : Json) (interval total added count : Nat) :
    progressFrom id interval total added (count + 1) =
      .progress id (added + interval) total ::
        progressFrom id interval total (added + interval) count := by
  rw [progressFrom, List.range'_succ, List.map_cons, Nat.mul_one, progressFrom,
    ← List.map_add_range', List.map_map]
  congr 2
  funext i
  simp only [Function.comp_apply, Nat.mul_add, Nat.mul_one, Nat.add_assoc]

/-- An operation of the engine sends nothing before the last response. -/
@[simp]
theorem sent_ofChange (engine : Engine) (payload : Json) (outcome : Except IndexError Engine) :
    (Effect.ofChange engine payload outcome).sent = [] := by
  cases outcome <;> rfl

/-- The rest of a batch of documents that can all be addressed tells its progress at every multiple
of the interval before its end. -/
theorem sent_addChunks (id : Json) (interval total added : Nat) (engine : Engine)
    (sent : List Response) {documents : List Document}
    (hall : documents.all Document.isAddressable = true)
    (htotal : total = added + documents.length) :
    (addChunks id interval total added engine sent documents).sent =
      sent.reverse ++ progressFrom id (interval + 1) total added
        (milestones (interval + 1) documents.length) := by
  fun_induction addChunks id interval total added engine sent documents with
  | case1 added engine sent => simp
  | case2 added engine sent first rest error hrefused =>
    rw [engine.addAll_of_all (all_take_drop _ hall).1] at hrefused
    contradiction
  | case3 added engine sent first rest changed count hadded added' sent' ih =>
    rw [engine.addAll_of_all (all_take_drop _ hall).1, Except.ok.injEq, Prod.mk.injEq,
      List.length_take] at hadded
    have hcount : count = min (interval + 1) (first :: rest).length := hadded.2.symm
    have hrest : total = added' + ((first :: rest).drop (interval + 1)).length := by
      rw [List.length_drop]
      omega
    rw [ih (all_take_drop _ hall).2 hrest, List.length_drop]
    by_cases hlast : (first :: rest).length ≤ interval + 1
    · -- The chunk reaches the end of the batch, so it is silent.
      have hsent : sent' = sent := if_neg (by omega)
      have hnothing : (first :: rest).length - (interval + 1) = 0 := by omega
      rw [hsent, hnothing, milestones_of_le hlast]
      simp
    · have hsent : sent' = .progress id (added + (interval + 1)) total :: sent := by
        have hadded' : added' = added + (interval + 1) := by omega
        rw [← hadded']
        exact if_pos (by omega)
      rw [hsent, milestones_of_lt (by omega) (by omega : interval + 1 < (first :: rest).length),
        progressFrom_succ]
      have hadded' : added' = added + (interval + 1) := by omega
      rw [hadded']
      simp

/-- A batch of documents that can all be addressed is put in whole, however large the chunks are,
and tells its progress at its milestones. -/
theorem addMany_of_all (worker : Worker) (id : Json) {documents : List Document}
    (hall : documents.all Document.isAddressable = true) :
    worker.addMany id documents =
      { engine := { worker.engine with
          index := worker.engine.index.insertAll (documents.map Document.analyze) }
        sent := progressFrom id worker.progressInterval documents.length 0
          (milestones worker.progressInterval documents.length)
        result := .ok (indexed documents.length) } := by
  rw [addMany, if_neg (by simp [hall])]
  cases worker.progressInterval with
  | zero =>
    rw [worker.engine.addAll_of_all hall]
    simp [Except.map, Effect.ofChange]
  | succ interval =>
    have hsent := sent_addChunks id interval documents.length 0 worker.engine [] hall (by simp)
    have hsettled := addChunks_of_all id interval documents.length 0 worker.engine [] hall
    rw [Nat.zero_add] at hsettled
    rw [List.reverse_nil, List.nil_append] at hsent
    dsimp only
    rw [← hsettled.1, ← hsettled.2, ← hsent]

/-- A batch is refused if one of its documents cannot be addressed; nothing is told before. -/
theorem addMany_of_not_all (worker : Worker) (id : Json) {documents : List Document}
    (hnot : documents.all Document.isAddressable = false) :
    worker.addMany id documents =
      .unchanged worker.engine (.error (.refused .missingDocumentId)) := by
  rw [addMany, if_pos (by simp [hnot])]

/-- A batch is addressable when none of its ids is blank. -/
theorem all_isAddressable_iff {documents : List Document} :
    documents.all Document.isAddressable = true ↔
      ∀ document ∈ documents, Text.isAllBlank document.id = false := by
  simp [Document.isAddressable]

/-- A batch without blank identifiers is answered by its progress at every multiple of the interval
below its length, and then by its length; an interval of zero and a batch without documents have no
such multiples.  The engine is the one that adding the batch at once leaves.  A batch with a blank
identifier is answered by an error only, and leaves the worker as it is. -/
theorem handle_batch (worker : Worker) (now : Timestamp) {request : Request}
    {documents : List Document}
    (h : requestedAction? now request = some (.addMany documents)) :
    ((∀ document ∈ documents, Text.isAllBlank document.id = false) →
      (0 < worker.progressInterval →
        ∃ count, (∀ i, 0 < i → (i ≤ count ↔ worker.progressInterval * i < documents.length)) ∧
          (worker.handle now request).2 =
            ((List.range' 1 count).map fun i =>
              .progress request.id (worker.progressInterval * i) documents.length) ++
            [.success request.id (indexed documents.length)]) ∧
      (worker.progressInterval = 0 ∨ documents = [] →
        (worker.handle now request).2 = [.success request.id (indexed documents.length)]) ∧
      worker.engine.addAll documents =
        .ok ((worker.handle now request).1.engine, documents.length)) ∧
    ((∃ document ∈ documents, Text.isAllBlank document.id = true) →
      worker.handle now request =
        (worker, [.error request.id IndexError.missingDocumentId.message])) := by
  have heffect : worker.effect now request = worker.addMany request.id documents :=
    effect_of_requestedAction?_eq_some worker h
  rw [handle, heffect]
  constructor
  · intro hnames
    have hall := all_isAddressable_iff.mpr hnames
    rw [worker.addMany_of_all request.id hall, worker.engine.addAll_of_all hall]
    refine ⟨?_, ?_, rfl⟩
    · intro hinterval
      refine ⟨milestones worker.progressInterval documents.length, ?_, ?_⟩
      · intro i hi
        exact le_milestones_iff hinterval documents.length hi
      · simp [progressFrom, lastResponse]
    · intro hnone
      have hcount : milestones worker.progressInterval documents.length = 0 := by
        rcases hnone with hzero | hnil
        · simp [hzero]
        · simp [hnil]
      simp [hcount, lastResponse]
  · rintro ⟨document, hmem, hblank⟩
    have hnot : documents.all Document.isAddressable = false := by
      rw [Bool.eq_false_iff, Ne, all_isAddressable_iff]
      intro hnames
      rw [hnames document hmem] at hblank
      contradiction
    rw [worker.addMany_of_not_all request.id hnot]
    rfl

/-- A batch of five documents, two of them versions of one, in chunks of two; and a batch with a
blank identifier. -/
theorem handle_batch_of_five :
    ∃ worker : Worker, worker = ⟨⟨Sample.index, default⟩, 2⟩ ∧
      (∃ request documents, requestedAction? (.ofDays 0) request = some (.addMany documents) ∧
        documents.map Document.id = ["a", "b", "a", "c", "d"] ∧
        (worker.handle (.ofDays 0) request).2 =
          [.progress (.int 7) 2 5, .progress (.int 7) 4 5, .success (.int 7) (indexed 5)] ∧
        worker.engine.addAll documents =
          .ok ((worker.handle (.ofDays 0) request).1.engine, 5)) ∧
      ∃ request documents, requestedAction? (.ofDays 0) request = some (.addMany documents) ∧
        documents.map Document.id = ["a", " \t"] ∧
        worker.handle (.ofDays 0) request =
          (worker, [.error (.int 8) IndexError.missingDocumentId.message]) := by
  refine ⟨_, rfl, ?_, ?_⟩
  · have hrequest : requestedAction? (.ofDays 0) ⟨.int 7, "index", .array [.string "addMany",
        .array [.array [.string "a"], .array [.string "b"], .array [.string "a"],
          .array [.string "c"], .array [.string "d"]]]⟩ =
        some (.addMany (["a", "b", "a", "c", "d"].map fun id => Sample.page id "" "")) := by
      cbv
    obtain ⟨hresponses, -, hengine⟩ :=
      (handle_batch ⟨⟨Sample.index, default⟩, 2⟩ _ hrequest).1 (by decide +kernel)
    obtain ⟨count, hcount, hresponses⟩ := hresponses (by decide)
    have htwo : count = 2 := by
      have hsecond := hcount 2 (by decide)
      have hthird := hcount 3 (by decide)
      simp only [List.length_map, List.length_cons, List.length_nil] at hsecond hthird
      omega
    refine ⟨_, _, hrequest, rfl, ?_, hengine⟩
    rw [hresponses, htwo]
    rfl
  · have hrequest : requestedAction? (.ofDays 0) ⟨.int 8, "index", .array [.string "addMany",
        .array [.array [.string "a"], .array [.string " \t"]]]⟩ =
        some (.addMany (["a", " \t"].map fun id => Sample.page id "" "")) := by
      cbv
    exact ⟨_, _, hrequest, rfl, (handle_batch _ _ hrequest).2 (by decide +kernel)⟩

/-! ## The responses to a line -/

/-- A response before the last one tells the progress of a batch that is added. -/
theorem sent_effect (worker : Worker) (now : Timestamp) (request : Request) {response : Response}
    (h : response ∈ (worker.effect now request).sent) :
    response.kind = .progress ∧ response.id = request.id ∧
      (lastResponse request.id (worker.effect now request).result).kind = .success ∧
      ∃ documents, requestedAction? now request = some (.addMany documents) := by
  cases haction : requestedAction? now request with
  | none =>
    obtain ⟨result, hresult⟩ := exists_effect_eq_unchanged worker haction
    simp [hresult, Effect.unchanged] at h
  | some action =>
    rw [effect_of_requestedAction?_eq_some worker haction] at h ⊢
    cases action with
    | add document => simp [change] at h
    | update document => simp [change] at h
    | remove documentId => simp [change] at h
    | clear => simp [change] at h
    | addMany documents =>
      rw [change] at h ⊢
      cases hall : documents.all Document.isAddressable with
      | false =>
        rw [worker.addMany_of_not_all request.id hall] at h
        simp [Effect.unchanged] at h
      | true =>
        rw [worker.addMany_of_all request.id hall] at h ⊢
        obtain ⟨i, -, rfl⟩ := List.mem_map.mp h
        exact ⟨rfl, rfl, rfl, documents, rfl⟩

/-- Every line has one response that tells its success or its failure, and this is the last one; the
others tell the progress of a batch that is added.  All of them carry the identifier of the request:
the value of its member in an object, null if it has no such member, and the first item of a
sequence.  A line that is no request has one response, an error without an identifier. -/
theorem one_final_response (worker : Worker) (now : Timestamp) (line : String) :
    (∃ sent last, (worker.handleLine now line).2 = sent ++ [last] ∧
      (last.kind = .success ∨ last.kind = .error) ∧
      (∀ response ∈ sent, response.kind = .progress) ∧
      (sent ≠ [] → last.kind = .success ∧
        ∃ documents, action? now line = some (.addMany documents))) ∧
    (∀ request, Request.ofText line = .ok request →
      (∀ response ∈ (worker.handleLine now line).2, response.id = request.id) ∧
      ((∃ members closed, (Json.Source.ofText line).1 = .object members closed ∧
          (∀ value, (some "id", value) ∈ members → value.toJson? = some request.id) ∧
          ((∀ member ∈ members, member.1 ≠ some "id") → request.id = .null)) ∨
        ∃ first rest closed, (Json.Source.ofText line).1 = .array (first :: rest) closed ∧
          first.toJson? = some request.id)) ∧
    ∀ fault, Request.ofText line = .error fault →
      (worker.handleLine now line).2 = [.error .null (malformedMessage fault)] := by
  rw [handleLine]
  cases hrequest : Request.ofText line with
  | error fault =>
    refine ⟨⟨[], _, rfl, .inr rfl, by simp, by simp⟩, by simp, ?_⟩
    intro fault' hfault
    rw [← Except.error.inj hfault]
  | ok request =>
    have hsent := @sent_effect worker now request
    have haction : action? now line = requestedAction? now request := by
      rw [action?, hrequest]
    dsimp only [handle]
    refine ⟨⟨_, _, rfl, ?_, ?_, ?_⟩, ?_, by simp⟩
    · cases (worker.effect now request).result with
      | ok payload => exact .inl rfl
      | error error => exact .inr rfl
    · intro response hmem
      exact (hsent hmem).1
    · intro hne
      obtain ⟨response, hmem⟩ := List.exists_mem_of_ne_nil _ hne
      rw [haction]
      exact (hsent hmem).2.2
    · intro request' hrequest'
      rw [← Except.ok.inj hrequest']
      refine ⟨?_, Request.id_of_ofText hrequest⟩
      intro response hmem
      rcases List.mem_append.mp hmem with hmem | hmem
      · exact (hsent hmem).2.1
      · rw [List.mem_singleton.mp hmem]
        cases (worker.effect now request).result <;> rfl

/-- A batch that is told in two steps and begins with its identifier, a request with its identifier
behind its kind, a request without an identifier, and a line that is no request. -/
theorem one_final_response_lines :
    ∃ worker : Worker, worker = ⟨⟨Sample.index, default⟩, 1⟩ ∧
      (∃ line, line = "[\"b7\", \"index\", [\"addMany\", [[\"a\"], [\"b\"]]]]" ∧
        (worker.handleLine (.ofDays 0) line).2.map Response.kind = [.progress, .success] ∧
        ∀ response ∈ (worker.handleLine (.ofDays 0) line).2, response.id = .string "b7") ∧
      (∃ line, line = "\x7b\"type\": \"stats\", \"id\": \"s1\"\x7d" ∧
        ∀ response ∈ (worker.handleLine (.ofDays 0) line).2, response.id = .string "s1") ∧
      (∃ line, line = "\x7b\"type\": \"stats\"\x7d" ∧
        ∀ response ∈ (worker.handleLine (.ofDays 0) line).2, response.id = .null) ∧
      (worker.handleLine (.ofDays 0) "stats").2 = [.error .null "malformed request"] := by
  have hresponses := one_final_response ⟨⟨Sample.index, default⟩, 1⟩ (.ofDays 0)
  refine ⟨_, rfl, ⟨_, rfl, by decide +kernel, ?_⟩, ⟨_, rfl, ?_⟩, ⟨_, rfl, ?_⟩, ?_⟩
  · have hrequest : Request.ofText "[\"b7\", \"index\", [\"addMany\", [[\"a\"], [\"b\"]]]]" =
        .ok ⟨.string "b7", "index",
          .array [.string "addMany", .array [.array [.string "a"], .array [.string "b"]]]⟩ := by
      cbv
    exact ((hresponses _).2.1 _ hrequest).1
  · have hrequest : Request.ofText "\x7b\"type\": \"stats\", \"id\": \"s1\"\x7d" =
        .ok ⟨.string "s1", "stats", .null⟩ := by
      cbv
    exact ((hresponses _).2.1 _ hrequest).1
  · have hrequest : Request.ofText "\x7b\"type\": \"stats\"\x7d" =
        .ok ⟨.null, "stats", .null⟩ := by
      cbv
    exact ((hresponses _).2.1 _ hrequest).1
  · have hword : Request.ofText "stats" = .error .malformed := by
      cbv
    exact (hresponses _).2.2 _ hword

end Worker
end TextSearch
