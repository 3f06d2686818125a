import TextSearch.Proofs.Wire.Options
import TextSearch.Wire.Document

/-!
# Documents are read back

A document is read back from its data value, whatever the present moment is: all ten fields are
written, apart from a table of further fields that is empty, and such a table is what a document has
that is told nothing of it.

The values of further fields are kept as they are, so nothing is asked of them but that they are
values at all: their objects are mappings, with ascending keys.  What is written is such a value
again.

Main results:

- Theorem `read_table`: a table of values is read back.
- Theorem `read_document`: a document is read back.
- Theorems `isNormal_document` and `isNormal_options`: what is written is in normal form.
- Theorem `ofJson_toJson`: all of this of documents and of search options.
-/

namespace TextSearch

open Wire (RecordField read read_list_map read_string read_strings read_timestamp)
open Wire.Record (put read_record foldlM_put_cons)

/-! ## Tables of values -/

namespace Wire

open Json (Source)

/-- Members in normal form are put into the table one after the other. -/
theorem membersFrom_map (found : Table String Json) {members : List (String × Json)}
    (h : ∀ member ∈ members, member.2.IsNormal) :
    membersFrom found (members.map Source.ofMember) =
      .ok (members.foldl (fun t e => t.insert e.1 e.2) found) := by
  induction members generalizing found with
  | nil => rfl
  | cons member rest ih =>
    rw [List.forall_mem_cons] at h
    have hvalue := Source.toJson?_ofJson h.1
    simp only [List.map_cons, Source.ofMember, membersFrom, hvalue]
    exact ih _ h.2

/-- A table of values is read back. -/
theorem read_table {values : Table String Json}
    (h : ∀ member ∈ values.entries, member.2.IsNormal) :
    read table (.object values.entries) = .ok values := by
  have hmembers := membersFrom_map .empty h
  rw [← Table.ofList, Table.ofList_entries] at hmembers
  rw [read, Source.ofJson_object, table, hmembers]
  rfl

/-- A text that may be missing is read back. -/
@[simp]
theorem read_optionalString (text : Option String) :
    read (optional string) (Json.optionalString text) = .ok text := by
  cases text <;> rfl

end Wire

/-! ## What is written is in normal form -/

namespace Json

/-- An object is in normal form if its keys ascend and its values are in normal form. -/
theorem IsNormal.of_keys {members : List (String × Json)}
    (hkeys : (members.map Prod.fst).Pairwise fun a b => compare a b = .lt)
    (hvalues : ∀ value ∈ members.map Prod.snd, value.IsNormal) :
    (Json.object members).IsNormal := by
  refine IsNormal.object (List.pairwise_map.mp hkeys) ?_
  intro member hmember
  exact hvalues member.2 (List.mem_map_of_mem hmember)

theorem isNormal_strings (texts : List String) : (strings texts).IsNormal := by
  refine IsNormal.array fun item hitem => ?_
  obtain ⟨text, -, rfl⟩ := List.mem_map.mp hitem
  exact IsNormal.string text

theorem isNormal_optionalString (text : Option String) : (optionalString text).IsNormal := by
  cases text with
  | none => exact IsNormal.null
  | some text => exact IsNormal.string text

theorem isNormal_ofNat (n : Nat) : (ofNat n).IsNormal :=
  IsNormal.int n

end Json

open Json (IsNormal isNormal_ofNat isNormal_optionalString isNormal_strings)

/-- A range of creation times that may be missing is in normal form. -/
theorem isNormal_created (created : Option DateRange) :
    ((created.map DateRange.toJson).getD .null).IsNormal := by
  cases created with
  | none => exact IsNormal.null
  | some range =>
    refine IsNormal.of_keys ?_ ?_
    · simp only [List.map_cons, List.map_nil]
      decide
    · simp [IsNormal.string]

/-- Written filters are in normal form. -/
theorem isNormal_filters (filters : Filters) : filters.toJson.IsNormal := by
  refine IsNormal.of_keys ?_ ?_
  · simp only [List.map_cons, List.map_nil]
    decide
  · simp [isNormal_strings, isNormal_created, KindSet.toJson]

theorem isNormal_marks (marks : Marks) : marks.toJson.IsNormal := by
  refine IsNormal.of_keys ?_ ?_
  · simp only [List.map_cons, List.map_nil]
    decide
  · simp [IsNormal.string]

/-- The data value of options is in normal form. -/
theorem isNormal_options (options : Options) : options.toJson.IsNormal := by
  refine IsNormal.of_keys ?_ ?_
  · simp only [List.map_cons, List.map_nil]
    decide
  · simp [isNormal_filters, isNormal_marks, isNormal_ofNat, IsNormal.bool, IsNormal.string]

/-- The data value of a document is in normal form, if its further fields are. -/
theorem isNormal_document {document : Document}
    (h : ∀ member ∈ document.fields.entries, member.2.IsNormal) :
    document.toJson.IsNormal := by
  have hfields : (Json.object document.fields.entries).IsNormal :=
    IsNormal.object document.fields.ascending h
  rw [Document.toJson]
  split
  · refine IsNormal.of_keys ?_ ?_
    · simp only [List.map_append, List.map_cons, List.map_nil]
      decide
    · simp [isNormal_optionalString, isNormal_strings, IsNormal.string]
  · refine IsNormal.of_keys ?_ ?_
    · simp only [List.map_append, List.map_cons, List.map_nil]
      decide
    · simp [isNormal_optionalString, isNormal_strings, IsNormal.string, hfields]

/-! ## Documents -/

/-- A table without entries is the empty one. -/
theorem Table.eq_empty_of_isEmpty {κ α : Type} [Ord κ] {t : Table κ α} (h : t.isEmpty = true) :
    t = .empty := by
  rcases t with ⟨entries, hascending⟩
  have hentries : entries = [] := List.isEmpty_iff.mp h
  subst hentries
  rfl

namespace Document

/-- The member for further fields, which is left out when there are none. -/
theorem foldlM_put_fields {fields : Table String Json}
    (h : ∀ member ∈ fields.entries, member.2.IsNormal) {record : Document}
    (hrecord : record.fields = .empty) (rest : List (String × Json)) :
    ((if fields.isEmpty then [] else [("fields", Json.object fields.entries)]) ++ rest).foldlM
      (put wireFields) record = rest.foldlM (put wireFields) { record with fields } := by
  split
  · rename_i hempty
    rw [Table.eq_empty_of_isEmpty hempty, ← hrecord]
    rfl
  · refine (foldlM_put_cons rfl (Wire.read_table h) record rest).trans ?_
    rfl

end Document

/-- A document is read back, whatever the present moment is. -/
theorem read_document (now : Timestamp) {document : Document}
    (h : ∀ member ∈ document.fields.entries, member.2.IsNormal) :
    read (Document.decoder now) document.toJson = .ok document := by
  rw [Document.decoder, Document.toJson, read_record]
  · simp only [List.cons_append, List.nil_append]
    refine (foldlM_put_cons rfl (Wire.read_optionalString document.author) _ _).trans ?_
    refine (foldlM_put_cons rfl (read_string document.body) _ _).trans ?_
    refine (foldlM_put_cons rfl (read_timestamp document.createdAt) _ _).trans ?_
    refine (Document.foldlM_put_fields h rfl _).trans ?_
    refine (foldlM_put_cons rfl (read_string document.id) _ _).trans ?_
    refine (foldlM_put_cons rfl (Wire.read_optionalString document.path) _ _).trans ?_
    refine (foldlM_put_cons rfl (read_strings document.tags) _ _).trans ?_
    refine (foldlM_put_cons rfl (read_string document.title) _ _).trans ?_
    refine (foldlM_put_cons rfl (read_kind document.kind) _ _).trans ?_
    refine (foldlM_put_cons rfl (read_timestamp document.updatedAt) _ _).trans ?_
    rfl
  · split
    · simp
    · simp
  · simp [Document.wireFields, RecordField.of]

/-- Documents and search options are written as data values in normal form, and these are read as the
documents and the options they come from. -/
theorem ofJson_toJson (now : Timestamp) (document : Document) (options : Options)
    (h : ∀ member ∈ document.fields.entries, member.2.IsNormal) :
    (document.toJson.IsNormal ∧ Document.ofJson now document.toJson = .ok document) ∧
      options.toJson.IsNormal ∧ Options.ofJson options.toJson = .ok options :=
  ⟨⟨isNormal_document h, read_document now h⟩, isNormal_options options, read_options options⟩

/-- A document with repeated tags and a field that holds a mapping, read at another moment than it
was written, and options that differ from the standard ones in every key. -/
theorem ofJson_toJson_block :
    ∃ (document : Document) (options : Options),
      document = ⟨"p", "Title", "", .block, none, .ofDays 0, .ofDays (-1), ["b", "a", "b"],
        some "author", ⟨[("since", .null), ("size", .object [("h", .int (-2)), ("w", .float 0.5)])],
          by decide⟩⟩ ∧
      options = ⟨0, 18446744073709551615, .updated, .ascending, false, ⟨"", "]"⟩, 9, 1,
        ⟨⟨true, false, true⟩, some ⟨.ofDays 0, .ofDays 1⟩, ["a", "A"], [], ["c"]⟩⟩ ∧
      (∀ member ∈ document.fields.entries, member.2.IsNormal) ∧
      Document.ofJson .epoch document.toJson = .ok document ∧
      Options.ofJson options.toJson = .ok options := by
  refine ⟨_, _, rfl, rfl, ?_⟩
  have hfields : ∀ member ∈ [("since", Json.null),
      ("size", Json.object [("h", .int (-2)), ("w", .float 0.5)])], member.2.IsNormal := by
    simp only [List.forall_mem_cons]
    refine ⟨IsNormal.null, IsNormal.object (by decide) ?_, by simp⟩
    simp [IsNormal.int, IsNormal.float]
  exact ⟨hfields, (ofJson_toJson .epoch _ _ hfields).imp And.right And.right⟩

end TextSearch
