import TextSearch.Proofs.Search.Paging

/-!
# Filtered results

A filter takes results away and does nothing else.  Documents are filtered before they are scored
and sorted, but scores are made from the whole index, and sorting is stable, so the results that
are left are what they would be without the filter, in the same order.

The five constraints of a filter have one shape: a list of what is wanted, which asks nothing if it
is empty.  So a constraint is loosened in two ways, by listing more in it and by emptying it.

Main results:

- Theorem `Filters.admits_iff_metBy`: what a filter asks of a document, constraint by constraint.
- Theorem `Filters.admits_of_within`: a looser filter admits more.
- Theorem `Index.listed_eq_filter`: a filter leaves the scores of the other documents as they are.
- Theorem `Index.filters_only_remove`: the results with a filter are those without it, less the ones
  that it does not admit.
-/

namespace TextSearch

/-! ## Constraints -/

/-- One of the things that are wanted passes a test, if anything is wanted. -/
def Permits {α : Type} (wanted : List α) (p : α → Prop) : Prop :=
  wanted ≠ [] → ∃ value ∈ wanted, p value

/-- The second list asks nothing, or the first one asks something and lists no more. -/
def Loosens {α : Type} (wanted others : List α) : Prop :=
  others = [] ∨ wanted ≠ [] ∧ wanted ⊆ others

/-- What a list permits is permitted by one that loosens it. -/
theorem Permits.of_loosens {α : Type} {wanted others : List α} {p : α → Prop}
    (h : Permits wanted p) (hloosens : Loosens wanted others) : Permits others p := by
  intro hsome
  rcases hloosens with hnone | ⟨hne, hsubset⟩
  · contradiction
  · obtain ⟨value, hmem, hp⟩ := h hne
    exact ⟨value, hsubset hmem, hp⟩

/-- How a constraint is checked: an empty one holds at once. -/
theorem isEmpty_or_iff_permits {α : Type} {wanted : List α} {p : α → Prop} {found : Bool}
    (h : found = true ↔ ∃ value ∈ wanted, p value) :
    (wanted.isEmpty || found) = true ↔ Permits wanted p := by
  rw [Bool.or_eq_true, List.isEmpty_iff, h, Permits]
  tauto

namespace KindSet

/-- The list of a set of kinds has its members. -/
theorem mem_toList {kinds : KindSet} {kind : Kind} :
    kind ∈ kinds.toList ↔ kinds.contains kind = true := by
  rw [toList, List.mem_filter]
  refine and_iff_right ?_
  cases kind <;> decide

/-- The list of a set of kinds is empty when the set is. -/
theorem isEmpty_toList (kinds : KindSet) : kinds.toList.isEmpty = kinds.isEmpty := by
  obtain ⟨page, block, tag⟩ := kinds
  cases page <;> cases block <;> cases tag <;> rfl

end KindSet

namespace Filters

/-- Every constraint holds of the document. -/
structure MetBy (filters : Filters) (document : Document) : Prop where
  kind : Permits filters.kinds.toList fun kind => document.kind = kind
  /-- The document was created in the span of time, both of whose ends belong to it. -/
  created : ∀ range, filters.created = some range →
    range.first.notAfter document.createdAt = true ∧
      document.createdAt.notAfter range.last = true
  tags : Permits filters.tags fun wanted =>
    ∃ tag ∈ document.tags, Text.lowercase tag = Text.lowercase wanted
  author : Permits filters.authors fun author => document.author = some author
  path : Permits filters.paths fun wanted =>
    ∃ path, document.path = some path ∧ wanted.toList <+: path.toList

/-- The second filters are the first ones with more listed where something is listed, with a longer
span of time, or without some of the constraints. -/
structure Within (narrow wide : Filters) : Prop where
  kinds : Loosens narrow.kinds.toList wide.kinds.toList
  created : ∀ span, wide.created = some span → ∃ range, narrow.created = some range ∧
    span.first.notAfter range.first = true ∧ range.last.notAfter span.last = true
  tags : Loosens narrow.tags wide.tags
  authors : Loosens narrow.authors wide.authors
  paths : Loosens narrow.paths wide.paths

variable {filters narrow wide : Filters} {document : Document}

/-- The filter of kinds asks for a kind of its list, if that has any. -/
theorem admitsKind_iff :
    filters.admitsKind document = true ↔
      Permits filters.kinds.toList fun kind => document.kind = kind := by
  rw [admitsKind, ← KindSet.isEmpty_toList]
  apply isEmpty_or_iff_permits
  simp [KindSet.mem_toList]

/-- The filter of creation times asks for a time within the range, both ends included. -/
theorem admitsCreation_iff :
    filters.admitsCreation document = true ↔ ∀ range, filters.created = some range →
      range.first.notAfter document.createdAt = true ∧
        document.createdAt.notAfter range.last = true := by
  rw [admitsCreation]
  cases filters.created with
  | none => simp
  | some range => simp [DateRange.contains]

/-- The filter of tags asks for one wanted tag, whatever the case of its letters. -/
theorem admitsTags_iff :
    filters.admitsTags document = true ↔ Permits filters.tags fun wanted =>
      ∃ tag ∈ document.tags, Text.lowercase tag = Text.lowercase wanted := by
  rw [admitsTags]
  apply isEmpty_or_iff_permits
  simp

/-- The filter of authors asks for one of the authors as written. -/
theorem admitsAuthor_iff :
    filters.admitsAuthor document = true ↔
      Permits filters.authors fun author => document.author = some author := by
  rw [admitsAuthor]
  apply isEmpty_or_iff_permits
  cases document.author with
  | none => simp
  | some author => simp

/-- The filter of paths asks for a path that begins like one of the wanted ones. -/
theorem admitsPath_iff :
    filters.admitsPath document = true ↔ Permits filters.paths fun wanted =>
      ∃ path, document.path = some path ∧ wanted.toList <+: path.toList := by
  rw [admitsPath]
  apply isEmpty_or_iff_permits
  cases document.path with
  | none => simp
  | some path => simp

/-- A filter admits the documents of which all its constraints hold. -/
theorem admits_iff_metBy : filters.admits document = true ↔ filters.MetBy document := by
  simp only [admits, Bool.and_eq_true, admitsKind_iff, admitsCreation_iff, admitsTags_iff,
    admitsAuthor_iff, admitsPath_iff]
  constructor
  · rintro ⟨⟨⟨⟨kind, created⟩, tags⟩, author⟩, path⟩
    exact ⟨kind, created, tags, author, path⟩
  · rintro ⟨kind, created, tags, author, path⟩
    exact ⟨⟨⟨⟨kind, created⟩, tags⟩, author⟩, path⟩

/-- A document that meets the constraints meets looser ones. -/
theorem MetBy.of_within (h : narrow.MetBy document) (hwithin : narrow.Within wide) :
    wide.MetBy document where
  kind := h.kind.of_loosens hwithin.kinds
  created := by
    intro span hspan
    obtain ⟨range, hrange, hfirst, hlast⟩ := hwithin.created span hspan
    obtain ⟨hafter, hbefore⟩ := h.created range hrange
    exact ⟨Std.TransCmp.isLE_trans hfirst hafter, Std.TransCmp.isLE_trans hbefore hlast⟩
  tags := h.tags.of_loosens hwithin.tags
  author := h.author.of_loosens hwithin.authors
  path := h.path.of_loosens hwithin.paths

/-- A looser filter admits more. -/
theorem admits_of_within (hwithin : narrow.Within wide) (h : narrow.admits document = true) :
    wide.admits document = true :=
  admits_iff_metBy.mpr ((admits_iff_metBy.mp h).of_within hwithin)

/-- Without filters, every document is admitted. -/
@[simp]
theorem admits_unrestricted (document : Document) : unrestricted.admits document = true :=
  rfl

end Filters

/-! ## Results -/

namespace Index

variable (index : Index) (query : String) (options : Options)

/-- The outcome of a search with the given filters that shows results from the first one on. -/
def searchFiltered (limit : Nat) (filters : Filters) : Outcome :=
  index.searchPage query { options with filters } 0 limit

/-- Filtered matches are matches. -/
theorem found_eq_filter (filters : Filters) :
    index.found query filters =
      (index.found query .unrestricted).filter fun found => filters.admits found.2.document := by
  simp only [found, Filters.admits_unrestricted, List.filter_filter, Bool.and_true]

/-- Matches are sorted by what their results are without the filter, and the ones that are left out
do not disturb the order of the others. -/
theorem listed_eq_filter (filters : Filters) :
    index.listed query { options with filters } =
      (index.listed query { options with filters := .unrestricted }).filter fun found =>
        filters.admits found.2.document := by
  rw [listed, listed, found_eq_filter]
  symm
  apply filter_mergeSort
  · exact fun first second third => Hit.comesBefore_trans options.sortKey options.direction
      (index.unmarked query first.2) (index.unmarked query second.2) (index.unmarked query third.2)
  · exact fun first second => Hit.comesBefore_total options.sortKey options.direction
      (index.unmarked query first.2) (index.unmarked query second.2)

/-- Filters make the list of results no longer. -/
theorem length_listed_le (filters : Filters) :
    (index.listed query { options with filters }).length ≤
      (index.listed query { options with filters := .unrestricted }).length := by
  rw [listed_eq_filter]
  exact List.length_filter_le _ _

variable {index query options}

/-- The total counts the results that the filters leave. -/
theorem total_searchFiltered (h : Text.isAllBlank query = false) (limit : Nat)
    (filters : Filters) :
    (index.searchFiltered query options limit filters).total =
      (index.listed query { options with filters }).length := by
  rw [searchFiltered, total_searchPage h, ← map_fst_found, List.length_map,
    (perm_listed _ _ _).length_eq]

/-- A limit that is not exceeded shows all results. -/
theorem results_searchFiltered (h : Text.isAllBlank query = false) {limit : Nat}
    {filters : Filters} (hlimit : (index.listed query { options with filters }).length ≤ limit) :
    (index.searchFiltered query options limit filters).results =
      (index.listed query { options with filters }).map fun found =>
        index.result query options found.2 := by
  rw [searchFiltered, results_searchPage h, page, List.drop_zero, List.take_of_length_le hlimit]
  rfl

/-- As many results as there are documents are never exceeded. -/
theorem total_searchFiltered_le (index : Index) (query : String) (options : Options) (limit : Nat)
    (filters : Filters) : (index.searchFiltered query options limit filters).total ≤ index.size := by
  cases hblank : Text.isAllBlank query with
  | true => simp [searchFiltered, searchPage, search, hblank, Outcome.empty]
  | false =>
    have hdistinct : (index.matching query filters).Nodup :=
      (index.ascending_matching query filters).imp Nat.ne_of_lt
    have hlive : index.matching query filters ⊆ index.allSlots.slots := by
      intro slot hslot
      obtain ⟨entry, hentry, -⟩ := (Option.any_eq_true _ _).mp (List.mem_filter.mp hslot).2
      exact mem_allSlots.mpr (Option.isSome_iff_exists.mpr ⟨entry, hentry⟩)
    have hlength := hdistinct.length_le_of_subset hlive
    rw [searchFiltered, total_searchPage hblank]
    simpa [size, allSlots, Table.keys, Table.size] using hlength

/-- The results with a filter are the results without it, less those that it does not admit. -/
theorem results_eq_filter {limit : Nat}
    (hlimit : (index.searchFiltered query options limit .unrestricted).total ≤ limit)
    (filters : Filters) :
    (index.searchFiltered query options limit filters).results =
      (index.searchFiltered query options limit .unrestricted).results.filter fun hit =>
        filters.admits hit.document := by
  cases hblank : Text.isAllBlank query with
  | true => simp [searchFiltered, searchPage, search, hblank, Outcome.empty]
  | false =>
    rw [total_searchFiltered hblank] at hlimit
    have hfewer := Nat.le_trans (index.length_listed_le query options filters) hlimit
    rw [results_searchFiltered hblank hfewer, results_searchFiltered hblank hlimit,
      listed_eq_filter, List.filter_map]
    rfl

/-- All results are counted. -/
theorem total_eq_length {limit : Nat}
    (hlimit : (index.searchFiltered query options limit .unrestricted).total ≤ limit)
    (filters : Filters) :
    (index.searchFiltered query options limit filters).total =
      (index.searchFiltered query options limit filters).results.length := by
  cases hblank : Text.isAllBlank query with
  | true => simp [searchFiltered, searchPage, search, hblank, Outcome.empty]
  | false =>
    rw [total_searchFiltered hblank] at hlimit
    have hfewer := Nat.le_trans (index.length_listed_le query options filters) hlimit
    rw [results_searchFiltered hblank hfewer, total_searchFiltered hblank, List.length_map]

/-- Where all results are shown, those with a filter are those without it, less the ones that the
filter does not admit: in the same order, with the same scores, matched fields and excerpts, and
counted.  The filter admits the documents of which all its constraints hold; so no result is lost
when more is listed where something is listed, and none is gained by one more constraint. -/
theorem filters_only_remove (index : Index) (query : String) (options : Options) {limit : Nat}
    (hlimit : (index.searchFiltered query options limit .unrestricted).total ≤ limit) :
    (∀ filters : Filters,
      (index.searchFiltered query options limit filters).results =
          (index.searchFiltered query options limit .unrestricted).results.filter
            (fun hit => filters.admits hit.document) ∧
        (index.searchFiltered query options limit filters).total =
          (index.searchFiltered query options limit filters).results.length ∧
        ∀ document, filters.admits document = true ↔ filters.MetBy document) ∧
      ∀ narrow wide : Filters, narrow.Within wide →
        (index.searchFiltered query options limit narrow).results.Sublist
          (index.searchFiltered query options limit wide).results := by
  refine ⟨fun filters => ⟨results_eq_filter hlimit filters, total_eq_length hlimit filters,
    fun document => Filters.admits_iff_metBy⟩, ?_⟩
  intro narrow wide hwithin
  have hagain : (index.searchFiltered query options limit narrow).results =
      (index.searchFiltered query options limit wide).results.filter fun hit =>
        narrow.admits hit.document := by
    rw [results_eq_filter hlimit narrow, results_eq_filter hlimit wide, List.filter_filter]
    apply List.filter_congr
    intro hit _
    by_cases hadmits : narrow.admits hit.document = true
    · simp [hadmits, Filters.admits_of_within hwithin hadmits]
    · simp [hadmits]
  rw [hagain]
  exact List.filter_sublist

/-- Of pages with tags and authors, listing one more author and asking for no tag any more loses no
result: one of the three results is left by the narrow filter, and that one and another by the wide
one. -/
theorem filters_only_remove_authors :
    ∃ index : Index, ∃ options : Options, ∃ narrow wide : Filters,
      index = after [
        .add { Sample.page "a" "Rust" "note" with tags := ["Work"], author := some "ana" },
        .add { Sample.page "b" "Go" "note" with author := some "bo" },
        .add { Sample.page "c" "Rust" "note" with tags := ["work"], author := some "cy" }] ∧
      options = { Options.standard with sortKey := .title } ∧
      narrow = { Filters.unrestricted with tags := ["WORK"], authors := ["ana"] } ∧
      wide = { Filters.unrestricted with authors := ["bo", "ana"] } ∧
      (index.searchFiltered "note" options 3 .unrestricted).total ≤ 3 ∧
      narrow.Within wide ∧
      ((index.searchFiltered "note" options 3 .unrestricted).results.map fun hit =>
        hit.document.id) = ["a", "c", "b"] ∧
      ((index.searchFiltered "note" options 3 wide).results.map fun hit => hit.document.id) =
        ["a", "b"] ∧
      ((index.searchFiltered "note" options 3 narrow).results.map fun hit => hit.document.id) =
        ["a"] ∧
      (index.searchFiltered "note" options 3 narrow).results.Sublist
        (index.searchFiltered "note" options 3 wide).results := by
  obtain ⟨ana, hana⟩ : ∃ ana, ana =
      { Sample.page "a" "Rust" "note" with tags := ["Work"], author := some "ana" } := ⟨_, rfl⟩
  obtain ⟨bo, hbo⟩ : ∃ bo, bo = { Sample.page "b" "Go" "note" with author := some "bo" } := ⟨_, rfl⟩
  obtain ⟨cy, hcy⟩ : ∃ cy, cy =
      { Sample.page "c" "Rust" "note" with tags := ["work"], author := some "cy" } := ⟨_, rfl⟩
  obtain ⟨index, hindex⟩ : ∃ index, index = after [.add ana, .add bo, .add cy] := ⟨_, rfl⟩
  obtain ⟨options, hoptions⟩ :
      ∃ options : Options, options = { Options.standard with sortKey := .title } := ⟨_, rfl⟩
  have hquery : Text.isAllBlank "note" = false := by
    decide +kernel
  have hentries : index.entries.entries = [(0, ana.analyze), (1, bo.analyze), (2, cy.analyze)] := by
    rw [hindex, hana, hbo, hcy]
    rfl
  have hmatching : index.matching "note" .unrestricted = [0, 1, 2] := by
    have htree : (parse "note").tree = .term "note" := by
      decide +kernel
    have hsound : index.Sound := by
      rw [hindex]
      exact sound_after _
    rw [matching_word_eq_keys hsound htree, Table.keys, hentries]
    · rfl
    · rw [hentries]
      simp only [List.forall_mem_cons, List.not_mem_nil, false_implies, implies_true, and_true,
        satisfiedBy_term_iff, hana, hbo, hcy]
      decide +kernel
  have hlimit : (index.searchFiltered "note" options 3 .unrestricted).total ≤ 3 := by
    rw [searchFiltered, total_searchPage hquery, hmatching]
    decide
  have hslots : ∀ e ∈ index.entries.entries, index.entryAt? e.1 = some e.2 :=
    fun _ => (Table.find?_eq_some_iff _ _ _).mpr
  rw [hentries] at hslots
  simp only [List.forall_mem_cons] at hslots
  obtain ⟨ha, hb, hc, -⟩ := hslots
  -- Without filters the titles descend, and the two equal ones stand as they were added.
  have hall : (index.searchFiltered "note" options 3 .unrestricted).results.map Hit.document =
      [ana, cy, bo] := by
    have hopen : { options with filters := .unrestricted } = options := by
      rw [hoptions]
      rfl
    have hordered : [0, 2, 1].Pairwise (index.Precedes "note" options) := by
      have hsame : cy.title = ana.title := by
        rw [hana, hcy]
        rfl
      have htied : compareTitles ana.title cy.title = .eq := compareTitles_eq_eq_iff.mpr hsame.symm
      have hahead : Direction.turn (compareTitles ana.title bo.title) .descending = .lt := by
        rw [hana, hbo]
        decide +kernel
      have hahead' : Direction.turn (compareTitles cy.title bo.title) .descending = .lt := by
        rw [hsame, hahead]
      rw [hoptions]
      simp only [List.pairwise_cons, List.forall_mem_cons, List.not_mem_nil, false_implies,
        implies_true, List.Pairwise.nil, and_true]
      exact ⟨⟨precedes_of_entryAt? ha hc (.inr ⟨htied, by decide⟩),
        precedes_of_entryAt? ha hb (.inl hahead)⟩, precedes_of_entryAt? hc hb (.inl hahead')⟩
    have hperm : [0, 2, 1].Perm (index.matching "note" options.filters) := by
      rw [← hopen, hmatching]
      decide
    have hshown : ∀ e ∈ [(0, ana.analyze), (2, cy.analyze), (1, bo.analyze)],
        index.entryAt? e.1 = some e.2 := by
      simp only [List.forall_mem_cons]
      exact ⟨ha, hc, hb, by simp⟩
    rw [searchFiltered, hopen, results_of_ordered hquery hshown hperm hordered (Nat.le_refl 3)]
    rfl
  have hwithin : Filters.Within
      { Filters.unrestricted with tags := ["WORK"], authors := ["ana"] }
      { Filters.unrestricted with authors := ["bo", "ana"] } :=
    { kinds := .inl rfl
      created := by
        intro span hspan
        contradiction
      tags := .inl rfl
      authors := .inr ⟨by decide, by decide⟩
      paths := .inl rfl }
  obtain ⟨hfilter, hsublist⟩ := filters_only_remove index "note" options hlimit
  have hleft (filters : Filters) :
      ((index.searchFiltered "note" options 3 filters).results.map fun hit => hit.document.id) =
        ([ana, cy, bo].filter filters.admits).map Document.id := by
    rw [(hfilter filters).1, ← hall, List.filter_map, List.map_map]
    rfl
  refine ⟨index, options, _, _, by rw [hindex, hana, hbo, hcy], hoptions, rfl, rfl, hlimit, hwithin,
    ?_, ?_, ?_, hsublist _ _ hwithin⟩
  all_goals
    rw [hleft, hana, hbo, hcy]
    decide +kernel

end Index
end TextSearch
