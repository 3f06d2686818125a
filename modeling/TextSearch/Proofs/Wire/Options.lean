import TextSearch.Proofs.Wire.Records
import TextSearch.Wire.Options

/-!
# Search options are read back

Every part of search options is read back from its data value, and with them the options as a whole.
A name that is spelled in two ways would seldom be told as an error: keys that are not known are
passed over, and sort keys that are not known stand for the score.

Main results:

- Theorem `read_filters`: constraints are read back.
- Theorem `read_options`: options are read back.
-/

namespace TextSearch

open Wire (RecordField read read_bool read_count read_list_map read_string read_strings
  read_timestamp)
open Wire.Record (read_record foldlM_put_cons)

/-! ## Names -/

/-- A sort key is read back from its name. -/
@[simp]
theorem read_sortKey (key : SortKey) :
    read Options.sortKeyDecoder (.string key.name) = .ok key := by
  have hread : read Options.sortKeyDecoder (.string key.name) = .ok (.ofName key.name) := rfl
  rw [hread, SortKey.ofName_name]

@[simp]
theorem read_direction (direction : Direction) :
    read (Wire.enumeration Direction.name Direction.all) (.string direction.name) =
      .ok direction := by
  cases direction <;> rfl

@[simp]
theorem read_kind (kind : Kind) :
    read (Wire.enumeration Kind.name Kind.all) (.string kind.name) = .ok kind := by
  cases kind <;> rfl

/-! ## Records -/

/-- Marks are read back from what they are written as. -/
@[simp]
theorem read_marks (marks : Marks) : read Marks.decoder marks.toJson = .ok marks := by
  rw [Marks.decoder, Marks.toJson,
    read_record _ _ (by simp) (by simp [Marks.wireFields, RecordField.of])]
  refine (foldlM_put_cons rfl (read_string marks.after) _ _).trans ?_
  refine (foldlM_put_cons rfl (read_string marks.before) _ _).trans ?_
  rfl

/-- A range of dates is read back from what it is written as. -/
@[simp]
theorem read_dateRange (range : DateRange) :
    read DateRange.decoder range.toJson = .ok range := by
  rw [DateRange.decoder, DateRange.toJson,
    read_record _ _ (by simp) (by simp [DateRange.wireFields, RecordField.of])]
  refine (foldlM_put_cons rfl (read_timestamp range.last) _ _).trans ?_
  refine (foldlM_put_cons rfl (read_timestamp range.first) _ _).trans ?_
  rfl

/-- A range that may be missing is read back from what it is written as. -/
theorem read_created (created : Option DateRange) :
    read (Wire.optional DateRange.decoder) ((created.map DateRange.toJson).getD .null) =
      .ok created := by
  cases created with
  | none => rfl
  | some range =>
    have hread : read (Wire.optional DateRange.decoder) range.toJson =
        (read DateRange.decoder range.toJson).map some := rfl
    rw [Option.map_some, Option.getD_some, hread, read_dateRange]
    rfl

/-- A set of kinds is written as the list of its kinds, and the list makes the set. -/
@[simp]
theorem read_kinds (kinds : KindSet) : read KindSet.decoder kinds.toJson = .ok kinds := by
  have hwritten : kinds.toJson = .array (kinds.toList.map fun kind => .string kind.name) := by
    rw [KindSet.toJson, Json.strings, List.map_map]
    rfl
  have hread (value : Json) : read KindSet.decoder value =
      (read (Wire.list (Wire.enumeration Kind.name Kind.all)) value).map .ofList := rfl
  rw [hread, hwritten, read_list_map kinds.toList fun kind _ => read_kind kind, Except.map,
    KindSet.ofList_toList]

/-- Constraints are read back. -/
theorem read_filters (filters : Filters) : Filters.ofJson filters.toJson = .ok filters := by
  have hread : Filters.ofJson filters.toJson = read Filters.decoder filters.toJson := rfl
  rw [hread, Filters.decoder, Filters.toJson,
    read_record _ _ (by simp) (by simp [Filters.wireFields, RecordField.of])]
  refine (foldlM_put_cons rfl (read_strings filters.authors) _ _).trans ?_
  refine (foldlM_put_cons rfl (read_created filters.created) _ _).trans ?_
  refine (foldlM_put_cons rfl (read_kinds filters.kinds) _ _).trans ?_
  refine (foldlM_put_cons rfl (read_strings filters.paths) _ _).trans ?_
  refine (foldlM_put_cons rfl (read_strings filters.tags) _ _).trans ?_
  rfl

/-- Options are read back. -/
theorem read_options (options : Options) : read Options.decoder options.toJson = .ok options := by
  rw [Options.decoder, Options.toJson,
    read_record _ _ (by simp) (by simp [Options.wireFields, RecordField.of])]
  refine (foldlM_put_cons rfl (read_filters options.filters) _ _).trans ?_
  refine (foldlM_put_cons rfl (read_count options.fragmentSize) _ _).trans ?_
  refine (foldlM_put_cons rfl (read_bool options.highlight) _ _).trans ?_
  refine (foldlM_put_cons rfl (read_marks options.marks) _ _).trans ?_
  refine (foldlM_put_cons rfl (read_count options.limit) _ _).trans ?_
  refine (foldlM_put_cons rfl (read_count options.maxFragments) _ _).trans ?_
  refine (foldlM_put_cons rfl (read_count options.offset) _ _).trans ?_
  refine (foldlM_put_cons rfl (read_sortKey options.sortKey) _ _).trans ?_
  refine (foldlM_put_cons rfl (read_direction options.direction) _ _).trans ?_
  rfl

end TextSearch
