import TextSearch.Proofs.Index.Tables
import TextSearch.Proofs.Wire.Options
import TextSearch.Service.Worker

/-!
# Options that are laid over the standard ones

A search request may bring some options of its own.  The worker writes the standard options of its
engine as a data value, lays the given members over it and reads the result, so every standard
option takes a way through its data value.  It arrives unchanged: each key has the meaning of the
value that was given, or else its standard value.

Main results:

- Theorem `Options.read_merged`: only the nine keys count in what is read of merged members.
- Theorem `Options.read_of_overlaid`: merged members are read as the options told key by key.
- Theorem `Options.read_of_faults`: they are refused for the first value that has no meaning.
- Theorem `Worker.defaults_overlaid`: what search requests with options are answered.
-/

namespace TextSearch

open Wire (DecodeError Decoder RecordField read read_bool read_count)
open Wire.Record (put put_of_fault? put_of_not_mem read_record foldlM_put_cons)

/-! ## Values that may be given -/

/-- The meaning of a value that may be given; when it is not, a standard one. -/
def Wire.readOr {α : Type} (decoder : Decoder α) (standard : α) :
    Option Json → Except DecodeError α
  | none => .ok standard
  | some value => read decoder value

/-- Where no value is given, the data value of the standard one may stand in its place. -/
theorem Wire.read_getD {α : Type} {decoder : Decoder α} {standard meaning : α} {encoded : Json}
    {given : Option Json} (h : readOr decoder standard given = .ok meaning)
    (hstandard : read decoder encoded = .ok standard) :
    read decoder (given.getD encoded) = .ok meaning := by
  cases given with
  | none => exact hstandard.trans h
  | some value => exact h

namespace Options

/-- The options that are used when a table is laid over standard options: for each of the nine keys,
the meaning of the value that the table gives it, or else its standard value. -/
structure Overlaid (standard : Options) (overlay : Table String Json) (used : Options) : Prop where
  limit : Wire.readOr Wire.count standard.limit (overlay.find? "limit") = .ok used.limit
  offset : Wire.readOr Wire.count standard.offset (overlay.find? "offset") = .ok used.offset
  sortKey :
    Wire.readOr sortKeyDecoder standard.sortKey (overlay.find? "sortBy") = .ok used.sortKey
  direction :
    Wire.readOr (Wire.enumeration Direction.name Direction.all) standard.direction
      (overlay.find? "sortOrder") = .ok used.direction
  highlight :
    Wire.readOr Wire.bool standard.highlight (overlay.find? "highlight") = .ok used.highlight
  marks :
    Wire.readOr Marks.decoder standard.marks (overlay.find? "highlightTags") = .ok used.marks
  fragmentSize :
    Wire.readOr Wire.count standard.fragmentSize (overlay.find? "fragmentSize") =
      .ok used.fragmentSize
  maxFragments :
    Wire.readOr Wire.count standard.maxFragments (overlay.find? "maxFragments") =
      .ok used.maxFragments
  filters :
    Wire.readOr Filters.decoder standard.filters (overlay.find? "filters") = .ok used.filters

/-- The options that are used are determined. -/
theorem Overlaid.unique {standard used other : Options} {overlay : Table String Json}
    (h : standard.Overlaid overlay used) (h' : standard.Overlaid overlay other) :
    used = other := by
  cases used
  cases other
  simp only [mk.injEq]
  exact ⟨Except.ok.inj (h.limit.symm.trans h'.limit),
    Except.ok.inj (h.offset.symm.trans h'.offset),
    Except.ok.inj (h.sortKey.symm.trans h'.sortKey),
    Except.ok.inj (h.direction.symm.trans h'.direction),
    Except.ok.inj (h.highlight.symm.trans h'.highlight),
    Except.ok.inj (h.marks.symm.trans h'.marks),
    Except.ok.inj (h.fragmentSize.symm.trans h'.fragmentSize),
    Except.ok.inj (h.maxFragments.symm.trans h'.maxFragments),
    Except.ok.inj (h.filters.symm.trans h'.filters)⟩

/-- What is wrong with the value of a key.  The value of a key that is not known does not matter. -/
def fault? (key : String) (value : Json) : Option DecodeError :=
  match key with
  | "limit" => Wire.fault? Wire.count value
  | "offset" => Wire.fault? Wire.count value
  | "sortBy" => Wire.fault? sortKeyDecoder value
  | "sortOrder" => Wire.fault? (Wire.enumeration Direction.name Direction.all) value
  | "highlight" => Wire.fault? Wire.bool value
  | "highlightTags" => Wire.fault? Marks.decoder value
  | "fragmentSize" => Wire.fault? Wire.count value
  | "maxFragments" => Wire.fault? Wire.count value
  | "filters" => Wire.fault? Filters.decoder value
  | _ => none

/-- What is wrong with the values of a table, in the order of its keys. -/
def faults (overlay : Table String Json) : List DecodeError :=
  overlay.entries.filterMap fun e => fault? e.1 e.2

/-- The keys of options. -/
def keys : List String := [
  "limit", "offset", "sortBy", "sortOrder", "highlight", "highlightTags", "fragmentSize",
  "maxFragments", "filters"]

/-- The fields of the record are the nine keys. -/
theorem name_wireFields : wireFields.map RecordField.name = keys :=
  rfl

/-! ## The data value of standard options -/

/-- The members of the data value of options. -/
def members (options : Options) : List (String × Json) :=
  match options.toJson with
  | .object members => members
  | _ => []

/-- The members of written options have the nine keys in ascending order. -/
theorem keys_members (options : Options) :
    options.members.map Prod.fst = [
      "filters", "fragmentSize", "highlight", "highlightTags", "limit", "maxFragments", "offset",
      "sortBy", "sortOrder"] :=
  rfl

/-- The members of written options ascend. -/
theorem ascending_members (options : Options) :
    options.members.Pairwise fun a b => compare a.1 b.1 = .lt := by
  have hkeys : (options.members.map Prod.fst).Pairwise fun a b => compare a b = .lt := by
    rw [keys_members]
    decide
  exact List.pairwise_map.mp hkeys

/-- The data value of options as a table. -/
def table (options : Options) : Table String Json :=
  ⟨options.members, options.ascending_members⟩

/-- The table of written options has the nine keys. -/
theorem contains_table_iff {options : Options} {key : String} :
    options.table.contains key = true ↔ key ∈ keys := by
  rw [← Table.mem_keys_iff]
  have hperm : options.table.keys.Perm keys := by
    rw [Table.keys, table, keys_members]
    decide
  exact hperm.mem_iff

/-- Standard options have no faults. -/
theorem fault?_eq_none_of_mem_members {options : Options} {member : String × Json}
    (h : member ∈ options.members) : fault? member.1 member.2 = none := by
  have hfilters : Wire.read Filters.decoder options.filters.toJson = .ok options.filters :=
    read_filters options.filters
  have hall : ∀ member ∈ options.members, fault? member.1 member.2 = none := by
    simp [members, toJson, fault?, Wire.fault?, hfilters]
  exact hall member h

/-! ## Keys -/

/-- No value under an unknown key is at fault. -/
theorem fault?_of_not_mem {key : String} (h : key ∉ keys) (value : Json) :
    fault? key value = none := by
  simp only [keys, List.mem_cons, List.not_mem_nil, or_false, not_or] at h
  simp [fault?, h]

/-- A value is not put into options where it has a fault, and only there. -/
theorem put_of_key_fault? (options : Options) (key : String) (value : Json) :
    (∀ error, fault? key value = some error →
      put wireFields options (key, value) = .error error) ∧
    (fault? key value = none → ∃ changed, put wireFields options (key, value) = .ok changed) := by
  by_cases hkey : key ∈ keys
  · simp only [keys, List.mem_cons, List.not_mem_nil, or_false] at hkey
    rcases hkey with rfl | rfl | rfl | rfl | rfl | rfl | rfl | rfl | rfl
    all_goals exact put_of_fault? rfl options value
  · have hput : put wireFields options (key, value) = .ok options := put_of_not_mem hkey options
    rw [fault?_of_not_mem hkey]
    exact ⟨by simp, fun _ => ⟨options, hput⟩⟩

/-! ## Reading merged members -/

section

variable {standard used : Options} {overlay : List (String × Json)}

/-- The members of the data value of standard options, with others laid over them. -/
def merged (standard : Options) (overlay : List (String × Json)) : Table String Json :=
  .ofList (standard.table.entries ++ overlay)

/-- A table of members is read by putting them one after another into the standard options. -/
theorem read_members (members : Table String Json) :
    read decoder (.object members.entries) = members.entries.foldlM (put wireFields) .standard :=
  read_record _ _ members.nodup_keys (by simp [wireFields, RecordField.of])

/-- Only the nine keys count.  They stand where the standard options have them, with the values that
were given in the place of the standard ones. -/
theorem read_merged (standard : Options) (overlay : List (String × Json)) :
    read decoder (.object (merged standard overlay).entries) =
      (standard.members.map fun e =>
        (e.1, ((Table.ofList overlay).find? e.1).getD e.2)).foldlM (put wireFields) .standard := by
  have hother : ∀ options member, standard.table.contains (Prod.fst member) = false →
      put wireFields options member = .ok options := by
    intro options member h
    refine put_of_not_mem ?_ options
    rw [name_wireFields, ← contains_table_iff, h]
    simp
  have hentries := Table.entries_restrict_overlaid_base standard.table overlay
  rw [read_members, ← Wire.foldlM_filter_of_pure hother]
  exact congrArg (List.foldlM (put wireFields) Options.standard) hentries

/-- Merged members are read as the options that are told key by key. -/
theorem read_of_overlaid (h : standard.Overlaid (.ofList overlay) used) :
    read decoder (.object (merged standard overlay).entries) = .ok used := by
  rw [read_merged]
  refine (foldlM_put_cons rfl (Wire.read_getD h.filters (read_filters _)) _ _).trans ?_
  refine (foldlM_put_cons rfl (Wire.read_getD h.fragmentSize (read_count _)) _ _).trans ?_
  refine (foldlM_put_cons rfl (Wire.read_getD h.highlight (read_bool _)) _ _).trans ?_
  refine (foldlM_put_cons rfl (Wire.read_getD h.marks (read_marks _)) _ _).trans ?_
  refine (foldlM_put_cons rfl (Wire.read_getD h.limit (read_count _)) _ _).trans ?_
  refine (foldlM_put_cons rfl (Wire.read_getD h.maxFragments (read_count _)) _ _).trans ?_
  refine (foldlM_put_cons rfl (Wire.read_getD h.offset (read_count _)) _ _).trans ?_
  refine (foldlM_put_cons rfl (Wire.read_getD h.sortKey (read_sortKey _)) _ _).trans ?_
  refine (foldlM_put_cons rfl (Wire.read_getD h.direction (read_direction _)) _ _).trans ?_
  rfl

/-! ## Faults -/

/-- A value that has no fault, or is not given, has a meaning. -/
theorem exists_readOr {α : Type} {table : Table String Json} (h : faults table = [])
    (decoder : Decoder α) (key : String)
    (hkey : ∀ value, fault? key value = Wire.fault? decoder value) (standard : α) :
    ∃ meaning, Wire.readOr decoder standard (table.find? key) = .ok meaning := by
  cases hfind : table.find? key with
  | none => exact ⟨standard, rfl⟩
  | some value =>
    have hmem := (Table.find?_eq_some_iff table key value).mp hfind
    have hnone := List.filterMap_eq_nil_iff.mp h _ hmem
    rw [hkey, Wire.fault?] at hnone
    rw [Wire.readOr]
    cases hread : read decoder value with
    | ok meaning => exact ⟨meaning, rfl⟩
    | error error =>
      rw [hread] at hnone
      contradiction

/-- A table without faults may be laid over any standard options. -/
theorem exists_overlaid {table : Table String Json} (h : faults table = [])
    (standard : Options) : ∃ used, standard.Overlaid table used := by
  obtain ⟨limit, hlimit⟩ :=
    exists_readOr h Wire.count "limit" (fun _ => rfl) standard.limit
  obtain ⟨offset, hoffset⟩ :=
    exists_readOr h Wire.count "offset" (fun _ => rfl) standard.offset
  obtain ⟨sortKey, hsortKey⟩ :=
    exists_readOr h sortKeyDecoder "sortBy" (fun _ => rfl) standard.sortKey
  obtain ⟨direction, hdirection⟩ :=
    exists_readOr h (Wire.enumeration Direction.name Direction.all) "sortOrder" (fun _ => rfl)
      standard.direction
  obtain ⟨highlight, hhighlight⟩ :=
    exists_readOr h Wire.bool "highlight" (fun _ => rfl) standard.highlight
  obtain ⟨marks, hmarks⟩ :=
    exists_readOr h Marks.decoder "highlightTags" (fun _ => rfl) standard.marks
  obtain ⟨fragmentSize, hfragmentSize⟩ :=
    exists_readOr h Wire.count "fragmentSize" (fun _ => rfl) standard.fragmentSize
  obtain ⟨maxFragments, hmaxFragments⟩ :=
    exists_readOr h Wire.count "maxFragments" (fun _ => rfl) standard.maxFragments
  obtain ⟨filters, hfilters⟩ :=
    exists_readOr h Filters.decoder "filters" (fun _ => rfl) standard.filters
  exact ⟨⟨limit, offset, sortKey, direction, highlight, marks, fragmentSize, maxFragments, filters⟩,
    hlimit, hoffset, hsortKey, hdirection, hhighlight, hmarks, hfragmentSize, hmaxFragments,
    hfilters⟩

/-- Merged members have the faults of those that were given, since the standard ones have none. -/
theorem faults_merged (standard : Options) (overlay : List (String × Json)) :
    faults (merged standard overlay) = faults (.ofList overlay) := by
  have hgiven : ((merged standard overlay).entries.filter fun member =>
      (Table.ofList overlay).contains member.1) = (Table.ofList overlay).entries :=
    congrArg Table.entries (Table.restrict_overlaid_overlay standard.table overlay)
  rw [faults, faults, ← hgiven, List.filterMap_filter]
  refine List.filterMap_congr fun member hmember => ?_
  cases hcontains : (Table.ofList overlay).contains member.1 with
  | true => rfl
  | false => exact fault?_eq_none_of_mem_members (Table.mem_base_of_mem_overlaid hmember hcontains)

/-- Merged members are refused for the first fault among those that were given. -/
theorem read_of_faults {error : DecodeError}
    (h : (faults (.ofList overlay)).head? = some error) (standard : Options) :
    read decoder (.object (merged standard overlay).entries) = .error error := by
  rw [read_members]
  refine Wire.foldlM_eq_error_of_head (fun options member => (put_of_key_fault? options _ _).1)
    (fun options member => (put_of_key_fault? options _ _).2) _ ?_
  rw [← h, ← faults_merged standard overlay]
  rfl

end

end Options

namespace Worker

/-! ## Search requests -/

section

variable {worker : Worker} {request : Request} {query : String}

/-- A search changes nothing and is answered once. -/
theorem handle_search (now : Timestamp) (hkind : request.kind = "search") :
    worker.handle now request =
      (worker, [lastResponse request.id (search worker.engine request.payload)]) := by
  rw [handle, effect, if_pos hkind]
  rfl

/-- Decoding a payload names the request in the error of the decoder. -/
theorem decode_eq {α : Type} (name : String) (decoder : Decoder α) (payload : Json) :
    decode name decoder payload =
      (read decoder payload).mapError fun error => .invalidPayload name error.message := by
  rw [decode, Wire.read]
  cases decoder .value (.ofJson payload) <;> rfl

/-- Any object in normal form can be given as the options of a search. -/
theorem read_searchPayload {overlay : List (String × Json)} (h : (Json.object overlay).IsNormal)
    (query : String) :
    read SearchPayload.decoder (.object [
        ("options", .object overlay), ("query", .string query)]) =
      .ok ⟨query, some (.object overlay)⟩ := by
  have hoptions : read (Wire.optional Wire.anything) (.object overlay) =
      .ok (some (.object overlay)) :=
    congrArg (Except.map some) (Wire.read_anything h)
  rw [SearchPayload.decoder, read_record _ _ (by simp) (by simp [RecordField.of])]
  refine (foldlM_put_cons rfl hoptions _ _).trans ?_
  refine (foldlM_put_cons rfl (Wire.read_string query) _ _).trans ?_
  rfl

/-- A search without options of its own is answered with the standard ones. -/
theorem search_of_no_options {engine : Engine} {payload : Json}
    (hread : read SearchPayload.decoder payload = .ok ⟨query, none⟩) :
    search engine payload = .ok (engine.searchWith query engine.defaults).toJson := by
  rw [search, decode_eq, hread]
  rfl

/-- A search with options of its own is answered with what is read of the merged members. -/
theorem search_of_options {engine : Engine} {payload : Json} {overlay : List (String × Json)}
    (hread : read SearchPayload.decoder payload = .ok ⟨query, some (.object overlay)⟩) :
    search engine payload =
      (((read Options.decoder (.object (engine.defaults.merged overlay).entries)).mapError
        fun error => .invalidPayload "search" error.message).map
          fun options => (engine.searchWith query options).toJson) := by
  have hmerged : mergedOptions engine.defaults (.object overlay) =
      decode "search" Options.decoder (.object (engine.defaults.merged overlay).entries) := rfl
  rw [search, decode_eq, hread]
  change (mergedOptions engine.defaults (.object overlay) >>= fun options =>
    pure (engine.searchWith query options).toJson) = _
  rw [hmerged, decode_eq]
  cases read Options.decoder (.object (engine.defaults.merged overlay).entries) <;> rfl

end

/-- Keys that are not known make no difference to what is read. -/
theorem read_merged_congr (standard : Options) {overlay other : List (String × Json)}
    (h : ∀ key ∈ Options.keys,
      (Table.ofList other).find? key = (Table.ofList overlay).find? key) :
    read Options.decoder (.object (standard.merged other).entries) =
      read Options.decoder (.object (standard.merged overlay).entries) := by
  rw [Options.read_merged, Options.read_merged]
  congr 1
  refine List.map_congr_left fun member hmember => ?_
  have hkey : standard.table.contains member.1 = true :=
    Table.mem_keys_iff.mp (List.mem_map_of_mem hmember)
  rw [h member.1 (Options.contains_table_iff.mp hkey)]

/-- A search request that brings options of its own is answered with the options in which each of
the nine keys has the meaning of the value that was given, or else the standard value of the engine.
If a value of one of these keys has no meaning, the request is refused with the first such fault,
and nothing else happens.  Other keys make no difference.  Options that are left out, `null` and
options without keys stand for the standard options. -/
theorem defaults_overlaid (worker : Worker) (now : Timestamp) :
    (∀ (request : Request) (query : String) (overlay : List (String × Json)),
      request.kind = "search" →
      read SearchPayload.decoder request.payload = .ok ⟨query, some (.object overlay)⟩ →
      ((∀ key value, (Table.ofList overlay).find? key = some value →
          Options.fault? key value = none) →
        ∃ used, worker.engine.defaults.Overlaid (.ofList overlay) used ∧
          worker.handle now request =
            (worker, [.success request.id (worker.engine.searchWith query used).toJson])) ∧
      (∀ key value error, (Table.ofList overlay).find? key = some value →
        Options.fault? key value = some error →
        ∃ first, (Options.faults (.ofList overlay)).head? = some first ∧
          worker.handle now request =
            (worker, [.error request.id ("invalid search payload: " ++ first.message)])) ∧
      (∀ (other : Request) (others : List (String × Json)),
        read SearchPayload.decoder other.payload = .ok ⟨query, some (.object others)⟩ →
        other.kind = "search" → other.id = request.id →
        (∀ key ∈ Options.keys,
          (Table.ofList others).find? key = (Table.ofList overlay).find? key) →
        worker.handle now other = worker.handle now request)) ∧
    (∀ (query : String) (overlay : List (String × Json)), (Json.object overlay).IsNormal →
      read SearchPayload.decoder (.object [
          ("options", .object overlay), ("query", .string query)]) =
        .ok ⟨query, some (.object overlay)⟩) ∧
    ∀ id query payload,
      payload ∈ [
        Json.object [("query", .string query)],
        .object [("options", .null), ("query", .string query)],
        .object [("options", .object []), ("query", .string query)]] →
      worker.handle now ⟨id, "search", payload⟩ =
        (worker, [.success id (worker.engine.searchWith query worker.engine.defaults).toJson]) := by
  refine ⟨fun request query overlay hkind hread => ⟨?_, ?_, ?_⟩,
    fun query overlay hnormal => read_searchPayload hnormal query, ?_⟩
  · intro hfine
    have hnone : Options.faults (.ofList overlay) = [] := by
      refine List.filterMap_eq_nil_iff.mpr fun member hmember => ?_
      exact hfine _ _ ((Table.find?_eq_some_iff _ _ _).mpr hmember)
    obtain ⟨used, hused⟩ := Options.exists_overlaid hnone worker.engine.defaults
    refine ⟨used, hused, ?_⟩
    rw [handle_search now hkind, search_of_options hread, Options.read_of_overlaid hused]
    rfl
  · intro key value error hfind hfault
    have hmem : error ∈ Options.faults (.ofList overlay) :=
      List.mem_filterMap.mpr ⟨(key, value), (Table.find?_eq_some_iff _ _ _).mp hfind, hfault⟩
    obtain ⟨first, hfirst⟩ : ∃ first, (Options.faults (.ofList overlay)).head? = some first :=
      Option.isSome_iff_exists.mp (List.isSome_head?.mpr (List.ne_nil_of_mem hmem))
    refine ⟨first, hfirst, ?_⟩
    rw [handle_search now hkind, search_of_options hread, Options.read_of_faults hfirst]
    rfl
  · intro other others hreads hother hid hsame
    rw [handle_search now hkind, handle_search now hother, search_of_options hread,
      search_of_options hreads, read_merged_congr _ hsame, hid]
  · intro id query payload hpayload
    have hempty : worker.engine.defaults.Overlaid (.ofList []) worker.engine.defaults :=
      ⟨rfl, rfl, rfl, rfl, rfl, rfl, rfl, rfl, rfl⟩
    have hread : read SearchPayload.decoder payload = .ok ⟨query, none⟩ ∨
        read SearchPayload.decoder payload = .ok ⟨query, some (.object [])⟩ := by
      simp only [List.mem_cons, List.not_mem_nil, or_false] at hpayload
      rcases hpayload with rfl | rfl | rfl
      · exact .inl rfl
      · exact .inl rfl
      · exact .inr rfl
    rw [handle_search now rfl]
    rcases hread with hread | hread
    · rw [search_of_no_options hread]
      rfl
    · rw [search_of_options hread, Options.read_of_overlaid hempty]
      rfl

/-- Standard options that differ in every key, under a limit and a key that is not known, under the
limit alone, and under a limit that is no count. -/
theorem defaults_overlaid_limit :
    ∃ worker : Worker,
      worker = ⟨.new ⟨1, 2, .updated, .ascending, false, ⟨"[", "]"⟩, 9, 1,
        ⟨⟨true, false, false⟩, some ⟨.ofDays 0, .ofDays 1⟩, ["a"], ["b"], ["c"]⟩⟩, 100⟩ ∧
      worker.handle (.ofDays 0) ⟨.ofNat 1, "search", .object [
          ("options", .object [("color", .string "red"), ("limit", .ofNat 5)]),
          ("query", .string "deep")]⟩ =
        (worker, [.success (.ofNat 1) (worker.engine.searchWith "deep"
          { worker.engine.defaults with limit := 5 }).toJson]) ∧
      worker.handle (.ofDays 0) ⟨.ofNat 1, "search", .object [
          ("options", .object [("limit", .ofNat 5)]), ("query", .string "deep")]⟩ =
        (worker, [.success (.ofNat 1) (worker.engine.searchWith "deep"
          { worker.engine.defaults with limit := 5 }).toJson]) ∧
      worker.handle (.ofDays 0) ⟨.ofNat 2, "search", .object [
          ("options", .object [("limit", .string "many")]), ("query", .string "deep")]⟩ =
        (worker, [.error (.ofNat 2)
          "invalid search payload: invalid type: string \"many\", expected usize"]) := by
  obtain ⟨worker, hworker⟩ : ∃ worker : Worker, worker = ⟨.new ⟨1, 2, .updated, .ascending, false,
    ⟨"[", "]"⟩, 9, 1,
    ⟨⟨true, false, false⟩, some ⟨.ofDays 0, .ofDays 1⟩, ["a"], ["b"], ["c"]⟩⟩, 100⟩ := ⟨_, rfl⟩
  obtain ⟨hgiven, hread, -⟩ := defaults_overlaid worker (.ofDays 0)
  have hcolor := hread "deep" [("color", .string "red"), ("limit", .ofNat 5)]
    (.object (by decide) (by simp [Json.IsNormal.string, Json.IsNormal.int, Json.ofNat]))
  have hlimit := hread "deep" [("limit", .ofNat 5)]
    (.object (by decide) (by simp [Json.IsNormal.int, Json.ofNat]))
  have hmany := hread "deep" [("limit", .string "many")]
    (.object (by decide) (by simp [Json.IsNormal.string]))
  have hfine : ∀ key value, (Table.ofList [("limit", .ofNat 5)]).find? key = some value →
      Options.fault? key value = none := by
    intro key value hfind
    have hmem := (Table.find?_eq_some_iff _ _ _).mp hfind
    change (key, value) ∈ [("limit", Json.ofNat 5)] at hmem
    rw [List.mem_singleton, Prod.mk.injEq] at hmem
    rcases hmem with ⟨rfl, rfl⟩
    rfl
  have hsame : ∀ key ∈ Options.keys,
      (Table.ofList [("color", Json.string "red"), ("limit", .ofNat 5)]).find? key =
        (Table.ofList [("limit", Json.ofNat 5)]).find? key := by
    intro key hkey
    have hne : key ≠ "color" := by
      rintro rfl
      exact absurd hkey (by decide)
    have hnone : (Table.ofList [("color", Json.string "red")]).find? key = none :=
      (Table.find?_insert .empty "color" _ key).trans (if_neg hne)
    have hlast := Table.find?_ofList_append
      [("color", Json.string "red")] [("limit", Json.ofNat 5)] key
    rw [hnone, Option.or_none] at hlast
    exact hlast
  have hused : worker.engine.defaults.Overlaid (.ofList [("limit", .ofNat 5)])
      { worker.engine.defaults with limit := 5 } :=
    ⟨rfl, rfl, rfl, rfl, rfl, rfl, rfl, rfl, rfl⟩
  have hclaim := hgiven ⟨.ofNat 1, "search", _⟩ "deep" _ rfl hlimit
  obtain ⟨used, hoverlaid, hanswer⟩ := hclaim.1 hfine
  rw [hoverlaid.unique hused] at hanswer
  refine ⟨worker, hworker, ?_, hanswer, ?_⟩
  · exact (hclaim.2.2 ⟨.ofNat 1, "search", _⟩ _ hcolor rfl rfl hsame).trans hanswer
  · obtain ⟨first, hfirst, hrefused⟩ :=
      (hgiven ⟨.ofNat 2, "search", _⟩ "deep" _ rfl hmany).2.1 "limit" (.string "many") _ rfl rfl
    rw [← Option.some.inj hfirst] at hrefused
    exact hrefused

end Worker
end TextSearch
