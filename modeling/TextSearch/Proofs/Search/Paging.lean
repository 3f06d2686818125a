import TextSearch.Proofs.Index.Answers
import TextSearch.Proofs.Index.Vocabulary
import TextSearch.Proofs.Search.Ordering
import TextSearch.Sample
import TextSearch.Search.Outcome

/-!
# Pages of results

All matches of a query stand in one list, whatever page is asked for, and each page is a piece of
this list.  The list is sorted by the key in the chosen direction; matches that the key does not
tell apart stand in the order in which they were added, in both directions.

Sorting sees results, not slots.  So the matches are taken as slots with their entries here, which
sorting does not notice, and every result that is shown can be told from its slot.

Main results:

- Theorem `flatMap_page`: consecutive pages of a list make up the list.
- Theorem `hits_eq_map_found`: the results before sorting are those of the matches.
- Theorems `isListing_listed` and `IsListing.unique`: there is one list that all pages are pieces of,
  and no other.
- Theorem `results_of_ordered`: a page with room for all matches shows any list of them that is in
  order.
- Theorem `exists_isListing`: consecutive pages of any size show every match once, in the order of
  this list.
-/

namespace TextSearch

/-! ## Pages of a list -/

/-- A page is what stands between its two ends. -/
theorem page_eq_drop_take {α : Type} (offset limit : Nat) (items : List α) :
    page offset limit items = (items.take (offset + limit)).drop offset := by
  rw [page, List.drop_take, Nat.add_sub_cancel_left]

/-- Mapping the items of a page is paging the mapped items. -/
theorem map_page {α β : Type} (f : α → β) (offset limit : Nat) (items : List α) :
    (page offset limit items).map f = page offset limit (items.map f) := by
  rw [page, page, List.map_take, List.map_drop]

/-- The first pages of a list make up its beginning. -/
theorem flatMap_page_eq_take {α : Type} (size count : Nat) (items : List α) :
    (List.range count).flatMap (fun n => page (n * size) size items) =
      items.take (count * size) := by
  induction count with
  | zero => simp
  | succ count ih =>
    rw [List.range_succ, List.flatMap_append, ih, Nat.succ_mul, List.take_add]
    simp [page]

/-- Consecutive pages of a list make up the list. -/
theorem flatMap_page {α : Type} {size : Nat} (h : 0 < size) (items : List α) :
    (List.range ((items.length + size - 1) / size)).flatMap
      (fun n => page (n * size) size items) = items := by
  rw [flatMap_page_eq_take]
  apply List.take_of_length_le
  have hdivision := Nat.div_add_mod (items.length + size - 1) size
  have hrest := Nat.mod_lt (items.length + size - 1) h
  rw [Nat.mul_comm]
  omega

namespace Index

/-! ## Matches -/

/-- A term asks for a document if its lower-case form is a word or a facet of the document. -/
theorem satisfiedBy_term_iff {value : String} {document : Document} :
    (Query.term value).satisfiedBy document.analyze.terms = true ↔
      Text.lowercase value ∈ document.words ∨ Text.lowercase value ∈ document.facets := by
  rw [Query.satisfiedBy, List.contains_iff_mem, Document.mem_terms_analyze]

variable (index : Index) (query : String) (options : Options)

/-- The live slots, ascending, that a query asks for and whose documents the filters admit. -/
def matching (filters : Filters) : List Slot :=
  (index.evaluate (parse query).tree).slots.filter fun slot =>
    (index.entryAt? slot).any fun entry => filters.admits entry.document

/-- The matching slots ascend. -/
theorem ascending_matching (filters : Filters) :
    (index.matching query filters).Pairwise (· < ·) :=
  (index.evaluate (parse query).tree).ascending.filter _

/-- The matches are the slots of the entries that satisfy the query and that the filters admit. -/
theorem matching_eq {index : Index} (h : index.Sound) (query : String) (filters : Filters) :
    index.matching query filters =
      (index.entries.entries.filter fun e =>
        (parse query).tree.satisfiedBy e.2.terms && filters.admits e.2.document).map Prod.fst := by
  have hmembers (slot : Slot) :
      slot ∈ index.evaluate (parse query).tree ↔ ∃ entry, index.entryAt? slot = some entry ∧
        (parse query).tree.satisfiedBy entry.terms = true := h.mem_evaluate
  rw [matching, slots_eq_map_filter (p := fun entry => (parse query).tree.satisfiedBy entry.terms)
    hmembers, List.filter_map, List.filter_filter]
  congr 1
  apply List.filter_congr
  intro e he
  have hentry : index.entryAt? e.1 = some e.2 := (Table.find?_eq_some_iff _ _ _).mpr he
  simp only [Function.comp_apply, hentry, Option.any_some, Bool.and_comm]

/-- A word that every document has matches all live slots, if the filters leave no document out. -/
theorem matching_word_eq_keys {index : Index} (h : index.Sound) {word : String} {filters : Filters}
    (htree : (parse word).tree = .term word)
    (hall : ∀ e ∈ index.entries.entries, (Query.term word).satisfiedBy e.2.terms = true ∧
      filters.admits e.2.document = true) :
    index.matching word filters = index.entries.keys := by
  rw [matching_eq h, htree, List.filter_eq_self.mpr]
  · rfl
  · intro e he
    rw [Bool.and_eq_true]
    exact hall e he

/-- The result for an entry, before excerpts are made. -/
def unmarked (entry : Entry) : Hit where
  document := entry.document
  score := Weighing.float.score (Weighing.float.weigh index (Text.terms query)) entry
  highlights := []
  matchedFields := entry.document.matchedFields (Text.distinct (Text.terms query))

/-- The result for an entry.  The page that it is shown on does not matter. -/
def result (entry : Entry) : Hit :=
  { index.unmarked query entry with
    highlights :=
      if options.highlight then
        entry.document.highlights options (Text.distinct (Text.terms query))
      else [] }

@[simp]
theorem document_result (entry : Entry) :
    (index.result query options entry).document = (index.unmarked query entry).document := by
  rw [result]

@[simp]
theorem score_result (entry : Entry) :
    (index.result query options entry).score = (index.unmarked query entry).score := by
  rw [result]

/-- The result for a live slot. -/
def resultAt? (slot : Slot) : Option Hit :=
  (index.entryAt? slot).map (index.result query options)

/-- Both slots are live, and the sort key puts the result of the first one ahead in the chosen
direction, or does not tell the two results apart, and the first slot is the lower one. -/
def Precedes (s t : Slot) : Prop :=
  ∃ a b, index.resultAt? query options s = some a ∧ index.resultAt? query options t = some b ∧
    (options.direction.turn (a.compareBy options.sortKey b) = .lt ∨
      a.compareBy options.sortKey b = .eq ∧ s < t)

/-- The outcome of a search for the page that begins behind `offset` results and has at most
`limit`. -/
def searchPage (offset limit : Nat) : Outcome :=
  index.search query { options with offset, limit }

/-- All pages are pieces of one list of the matches, which is in order. -/
structure IsListing (order : List Slot) : Prop where
  perm : order.Perm (index.matching query options.filters)
  ordered : order.Pairwise (index.Precedes query options)
  total_eq (offset limit : Nat) :
    (index.searchPage query options offset limit).total =
      (index.matching query options.filters).length
  results_eq (offset limit : Nat) :
    (index.searchPage query options offset limit).results.map some =
      ((order.take (offset + limit)).drop offset).map (index.resultAt? query options)

/-! ## Slots with their entries -/

/-- The matches with their entries. -/
def found (filters : Filters) : List (Slot × Entry) :=
  ((index.evaluate (parse query).tree).slots.filterMap fun slot =>
    (index.entryAt? slot).map fun entry => (slot, entry)).filter fun found =>
      filters.admits found.2.document

/-- The matches with their entries, sorted as their results are. -/
def listed : List (Slot × Entry) :=
  (index.found query options.filters).mergeSort fun first second =>
    (index.unmarked query first.2).comesBefore options.sortKey options.direction
      (index.unmarked query second.2)

/-- The entries found are those of the matching slots, in their order. -/
theorem map_fst_found (filters : Filters) :
    (index.found query filters).map Prod.fst = index.matching query filters := by
  rw [found, matching]
  induction (index.evaluate (parse query).tree).slots with
  | nil => rfl
  | cons slot slots ih =>
    cases hentry : index.entryAt? slot with
    | none => simpa [hentry] using ih
    | some entry =>
      by_cases hadmits : filters.admits entry.document = true
      · simpa [hentry, hadmits] using ih
      · simpa [hentry, hadmits] using ih

/-- The results before sorting are those of the matches. -/
theorem hits_eq_map_found (filters : Filters) :
    index.hits (parse query).tree (Text.terms query) filters =
      (index.found query filters).map fun found => index.unmarked query found.2 := by
  have hentries : (index.evaluate (parse query).tree).slots.filterMap index.entryAt? =
      ((index.evaluate (parse query).tree).slots.filterMap fun slot =>
        (index.entryAt? slot).map fun entry => (slot, entry)).map Prod.snd := by
    rw [List.map_filterMap]
    simp [Function.comp_def]
  rw [hits, hentries, List.filter_map, List.map_map]
  rfl

/-- Sorting the matches sorts their results. -/
theorem map_unmarked_listed :
    (index.listed query options).map (fun found => index.unmarked query found.2) =
      sortHits options.sortKey options.direction
        (index.hits (parse query).tree (Text.terms query) options.filters) := by
  rw [hits_eq_map_found, sortHits, listed]
  apply List.map_mergeSort
  intro first _ second _
  rfl

/-- The list has what was found, each entry as often. -/
theorem perm_listed : (index.listed query options).Perm (index.found query options.filters) :=
  List.mergeSort_perm _ _

variable {index query options}

/-- What was found stands in the index under its slot. -/
theorem entryAt?_of_mem_found {filters : Filters} {found : Slot × Entry}
    (h : found ∈ index.found query filters) : index.entryAt? found.1 = some found.2 := by
  have hmem := (List.mem_filter.mp h).1
  rcases List.mem_filterMap.mp hmem with ⟨slot, -, hslot⟩
  rcases Option.map_eq_some_iff.mp hslot with ⟨entry, hentry, rfl⟩
  exact hentry

/-- What is listed stands in the index under its slot. -/
theorem entryAt?_of_mem_listed {found : Slot × Entry}
    (h : found ∈ index.listed query options) : index.entryAt? found.1 = some found.2 :=
  entryAt?_of_mem_found ((perm_listed index query options).mem_iff.mp h)

/-- The result for a live slot is that of its entry. -/
theorem resultAt?_of_entryAt? {slot : Slot} {entry : Entry} (h : index.entryAt? slot = some entry) :
    index.resultAt? query options slot = some (index.result query options entry) := by
  rw [resultAt?, h, Option.map_some]

/-- Excerpts do not matter for the order. -/
theorem compareBy_result (key : SortKey) (a b : Entry) :
    (index.result query options a).compareBy key (index.result query options b) =
      (index.unmarked query a).compareBy key (index.unmarked query b) := by
  cases key <;> simp only [Hit.compareBy, document_result, score_result]

/-- Live slots precede each other as the entries in them compare. -/
theorem precedes_of_entryAt? {s t : Slot} {a b : Entry} (ha : index.entryAt? s = some a)
    (hb : index.entryAt? t = some b)
    (h : options.direction.turn
        ((index.unmarked query a).compareBy options.sortKey (index.unmarked query b)) = .lt ∨
      (index.unmarked query a).compareBy options.sortKey (index.unmarked query b) = .eq ∧ s < t) :
    index.Precedes query options s t := by
  refine ⟨_, _, resultAt?_of_entryAt? ha, resultAt?_of_entryAt? hb, ?_⟩
  rw [compareBy_result]
  exact h

/-! ## Searching -/

/-- A page shows the results of the matches that are listed there. -/
theorem results_searchPage (h : Text.isAllBlank query = false) (offset limit : Nat) :
    (index.searchPage query options offset limit).results =
      (page offset limit (index.listed query options)).map
        fun found => index.result query options found.2 := by
  have hshown : page offset limit (sortHits options.sortKey options.direction
      (index.hits (parse query).tree (Text.terms query) options.filters)) =
      (page offset limit (index.listed query options)).map
        fun found => index.unmarked query found.2 := by
    rw [map_page, map_unmarked_listed]
  rw [searchPage, search, if_neg (by simp [h])]
  dsimp only
  rw [hshown]
  by_cases hmarked : options.highlight = true
  · rw [if_pos hmarked, List.map_map]
    apply List.map_congr_left
    intro found _
    rw [result, if_pos hmarked]
    -- Excerpts are made from the options, but not from the ends of the page.
    rfl
  · rw [if_neg hmarked]
    apply List.map_congr_left
    intro found _
    rw [result, if_neg hmarked]
    simp only [unmarked]

/-- The total of a page counts all matches. -/
theorem total_searchPage (h : Text.isAllBlank query = false) (offset limit : Nat) :
    (index.searchPage query options offset limit).total =
      (index.matching query options.filters).length := by
  rw [searchPage, search, if_neg (by simp [h])]
  dsimp only
  rw [hits_eq_map_found, ← map_fst_found, List.length_map, List.length_map]

/-- The matches are listed in order. -/
theorem pairwise_precedes_listed :
    ((index.listed query options).map Prod.fst).Pairwise (index.Precedes query options) := by
  have hascending : (index.found query options.filters).Pairwise fun first second =>
      first.1 < second.1 := by
    rw [← List.pairwise_map, map_fst_found]
    exact index.ascending_matching query options.filters
  have hsorted := pairwise_mergeSort_of_pairwise
    (fun first second third : Slot × Entry => Hit.comesBefore_trans options.sortKey
      options.direction (index.unmarked query first.2) (index.unmarked query second.2)
      (index.unmarked query third.2))
    (fun first second => Hit.comesBefore_total options.sortKey options.direction
      (index.unmarked query first.2) (index.unmarked query second.2)) hascending
  rw [List.pairwise_map]
  refine List.Pairwise.imp_of_mem ?_ hsorted
  intro first second hfirst hsecond hbefore
  exact precedes_of_entryAt? (entryAt?_of_mem_listed hfirst) (entryAt?_of_mem_listed hsecond)
    (Hit.ahead_or_tied_of_comesBefore hbefore.1 hbefore.2)

/-- There is one list that all pages are pieces of. -/
theorem isListing_listed (h : Text.isAllBlank query = false) :
    index.IsListing query options ((index.listed query options).map Prod.fst) where
  perm := by
    rw [← map_fst_found]
    exact (perm_listed index query options).map Prod.fst
  ordered := pairwise_precedes_listed
  total_eq := total_searchPage h
  results_eq := by
    intro offset limit
    rw [results_searchPage h, ← page_eq_drop_take, ← map_page, List.map_map, List.map_map]
    apply List.map_congr_left
    intro found hfound
    have hmem : found ∈ index.listed query options :=
      List.mem_of_mem_drop (List.mem_of_mem_take hfound)
    exact (resultAt?_of_entryAt? (entryAt?_of_mem_listed hmem)).symm

/-- Two slots do not precede each other. -/
theorem Precedes.asymm {s t : Slot} (h : index.Precedes query options s t) :
    ¬ index.Precedes query options t s := by
  obtain ⟨a, b, ha, hb, horder⟩ := h
  rintro ⟨b', a', hb', ha', hback⟩
  obtain rfl := Option.some.inj (hb.symm.trans hb')
  obtain rfl := Option.some.inj (ha.symm.trans ha')
  have hswap : b.compareBy options.sortKey a = (a.compareBy options.sortKey b).swap :=
    Std.OrientedCmp.eq_swap
  rw [hswap, Direction.turn_swap] at hback
  rcases horder with hahead | ⟨htied, hst⟩
  · rw [hahead] at hback
    rcases hback with hback | ⟨hback, -⟩
    · contradiction
    · rw [Ordering.swap_eq_eq.mp hback, Direction.turn_eq] at hahead
      contradiction
  · rw [htied, Direction.turn_eq] at hback
    rcases hback with hback | ⟨-, hts⟩
    · contradiction
    · exact Nat.lt_asymm hst hts

/-- There is no other list of the matches in order. -/
theorem IsListing.unique {order other : List Slot} (h : index.IsListing query options order)
    (hperm : other.Perm (index.matching query options.filters))
    (hordered : other.Pairwise (index.Precedes query options)) : order = other :=
  (h.perm.trans hperm.symm).eq_of_pairwise
    (fun _ _ _ _ hst hts => absurd hts hst.asymm) h.ordered hordered

/-- A page with room for all matches shows the results for any list of them that is in order. -/
theorem results_of_ordered (h : Text.isAllBlank query = false) {shown : List (Slot × Entry)}
    (hentries : ∀ e ∈ shown, index.entryAt? e.1 = some e.2)
    (hperm : (shown.map Prod.fst).Perm (index.matching query options.filters))
    (hordered : (shown.map Prod.fst).Pairwise (index.Precedes query options)) {limit : Nat}
    (hlimit : shown.length ≤ limit) :
    (index.searchPage query options 0 limit).results =
      shown.map fun e => index.result query options e.2 := by
  have hlisting : index.IsListing query options _ := isListing_listed h
  have hpage := hlisting.results_eq 0 limit
  have hlength : (shown.map Prod.fst).length ≤ limit := by
    rw [List.length_map]
    exact hlimit
  rw [hlisting.unique hperm hordered, Nat.zero_add, List.drop_zero,
    List.take_of_length_le hlength] at hpage
  have hinjective : Function.Injective (some : Hit → Option Hit) := fun _ _ => Option.some.inj
  apply hinjective.list_map
  rw [hpage, List.map_map, List.map_map]
  exact List.map_congr_left fun e he => resultAt?_of_entryAt? (hentries e he)

/-- Consecutive pages show the whole list. -/
theorem IsListing.flatMap_results {order : List Slot} (h : index.IsListing query options order)
    {size : Nat} (hsize : 0 < size) :
    (List.range ((order.length + size - 1) / size)).flatMap (fun n =>
      (index.searchPage query options (n * size) size).results.map some) =
      order.map (index.resultAt? query options) := by
  have hpages := flatMap_page hsize (order.map (index.resultAt? query options))
  rw [List.length_map] at hpages
  simp only [h.results_eq, ← page_eq_drop_take, map_page]
  exact hpages

/-- The matches ascend, so no slot is among them twice.  There is one list of them, in order, that
every page of the results is a piece of, and consecutive pages of any size show every match once, in
the order of this list. -/
theorem exists_isListing (index : Index) {query : String} (h : Text.isAllBlank query = false)
    (options : Options) :
    (index.matching query options.filters).Pairwise (· < ·) ∧
      ∃ order : List Slot, index.IsListing query options order ∧
        ∀ size, 0 < size →
          (List.range ((order.length + size - 1) / size)).flatMap (fun n =>
            (index.searchPage query options (n * size) size).results.map some) =
            order.map (index.resultAt? query options) := by
  refine ⟨index.ascending_matching query options.filters, _, isListing_listed h, ?_⟩
  intro size hsize
  exact (isListing_listed h).flatMap_results hsize

/-- Single results, one after the other, by descending title.  Of the three documents that are left
two have the same title and stand in the order in which they were added. -/
theorem exists_isListing_titles :
    Text.isAllBlank "note" = false ∧
      ∃ index : Index, ∃ order : List Slot,
        index = after [.add (Sample.page "a" "Rust" "note"), .add (Sample.page "b" "Go" "note"),
          .add (Sample.page "c" "Rust" "note"), .remove "b",
          .add (Sample.page "d" "Swift" "note")] ∧
        index.IsListing "note" { Options.standard with sortKey := .title } order ∧
        order = [3, 0, 2] ∧
        (List.range order.length).flatMap (fun n =>
          (index.searchPage "note" { Options.standard with sortKey := .title } n 1).results.map
            some) =
          order.map (index.resultAt? "note" { Options.standard with sortKey := .title }) := by
  have hquery : Text.isAllBlank "note" = false := by
    decide +kernel
  obtain ⟨changes, hchanges⟩ : ∃ changes : List Change, changes =
      [.add (Sample.page "a" "Rust" "note"), .add (Sample.page "b" "Go" "note"),
        .add (Sample.page "c" "Rust" "note"), .remove "b",
        .add (Sample.page "d" "Swift" "note")] := ⟨_, rfl⟩
  obtain ⟨options, hoptions⟩ :
      ∃ options : Options, options = { Options.standard with sortKey := .title } := ⟨_, rfl⟩
  rw [← hchanges, ← hoptions]
  obtain ⟨-, order, hlisting, hpages⟩ := exists_isListing (after changes) hquery options
  have hentries : (after changes).entries.entries =
      [(0, (Sample.page "a" "Rust" "note").analyze), (2, (Sample.page "c" "Rust" "note").analyze),
        (3, (Sample.page "d" "Swift" "note").analyze)] := by
    rw [hchanges]
    rfl
  have hmatching : (after changes).matching "note" options.filters = [0, 2, 3] := by
    have htree : (parse "note").tree = .term "note" := by
      decide +kernel
    rw [matching_word_eq_keys (sound_after changes) htree, Table.keys, hentries]
    · rfl
    · rw [hentries, hoptions]
      simp only [List.forall_mem_cons, List.not_mem_nil, false_implies, implies_true, and_true,
        satisfiedBy_term_iff]
      decide +kernel
  have hslots : ∀ e ∈ (after changes).entries.entries,
      (after changes).entryAt? e.1 = some e.2 :=
    fun _ => (Table.find?_eq_some_iff _ _ _).mpr
  rw [hentries] at hslots
  simp only [List.forall_mem_cons] at hslots
  obtain ⟨ha, hc, hd, -⟩ := hslots
  have hprecedes : [3, 0, 2].Pairwise ((after changes).Precedes "note" options) := by
    have hahead : Direction.turn (compareTitles "Swift" "Rust") .descending = .lt := by
      decide +kernel
    have htied : compareTitles "Rust" "Rust" = .eq :=
      compareTitles_eq_eq_iff.mpr rfl
    rw [hoptions]
    simp only [List.pairwise_cons, List.forall_mem_cons, List.not_mem_nil, false_implies,
      implies_true, List.Pairwise.nil, and_true]
    exact ⟨⟨precedes_of_entryAt? hd ha (.inl hahead), precedes_of_entryAt? hd hc (.inl hahead)⟩,
      precedes_of_entryAt? ha hc (.inr ⟨htied, by decide⟩)⟩
  have horder : order = [3, 0, 2] := by
    refine hlisting.unique ?_ hprecedes
    rw [hmatching]
    decide
  refine ⟨hquery, _, order, rfl, hlisting, horder, ?_⟩
  have hsingle := hpages 1 (by decide)
  simp only [Nat.add_sub_cancel, Nat.div_one, Nat.mul_one] at hsingle
  exact hsingle

end Index
end TextSearch
