import TextSearch.Proofs.CommandLine.Codes
import TextSearch.Proofs.Decimal.Digits
import TextSearch.Sample

/-!
# Colours do not change reports

Every report is put together from texts that are given, from numbers and from a frame.  Where no
given text has an escape character, the report in colours is the report without colours and codes
between its characters, so all that is filled up and every border is where it is without colours.

Main results:

- Theorems `showsAs_errorRow`, `showsAs_hitRow` and `showsAs_fragmentRow`: rows in colours show as
  the same rows without.
- Theorem `reports_without_codes`: the reports are the same without their codes.
-/

namespace TextSearch
namespace CommandLine

/-! ## Plain texts -/

theorem isPlain_repr (n : Nat) : IsPlain n.repr := by
  rw [IsPlain, Nat.toList_repr]
  intro h
  have hdigit := Nat.isDigit_of_mem_toDigits (by decide) (by decide) h
  revert hdigit
  decide

/-- A number with fixed decimal places is plain. -/
theorem isPlain_fixed (places : Nat) (x : Float) : IsPlain (Decimal.fixed places x) := by
  intro h
  have hpart := Decimal.isPart_of_mem_fixed h
  revert hpart
  decide

theorem isPlain_kindName (kind : Kind) : IsPlain kind.name := by
  cases kind <;> decide

theorem isPlain_fieldName (field : MatchField) : IsPlain field.name := by
  cases field <;> decide

/-- Cutting a plain text to a width, with or without the ellipsis, leaves it plain. -/
theorem IsPlain.shortened {text : String} (h : IsPlain text) (width : Nat) :
    IsPlain (shortened width text) := by
  unfold CommandLine.shortened
  split
  · exact h
  · rw [IsPlain, String.toList_ofList, List.mem_append, not_or]
    exact ⟨fun hmem => h (List.mem_of_mem_take hmem), by decide⟩

/-- A headline of plain parts is plain. -/
theorem IsPlain.headline {command subject : String} (h : IsPlain subject)
    (hcommand : IsPlain command) : IsPlain (headline command subject) := by
  simp only [CommandLine.headline, isPlain_append]
  exact ⟨⟨⟨hcommand, by decide⟩, h.shortened 40⟩, by decide⟩

theorem isPlain_rankText (rank : Nat) : IsPlain (rankText rank) := by
  rw [rankText, isPlain_append]
  exact ⟨isPlain_repeated _ (by decide), isPlain_repr rank⟩

/-- There is no escape character in what is shown of a result. -/
structure IsPlainHit (hit : Hit) : Prop where
  title : IsPlain hit.document.title
  id : IsPlain hit.document.id
  fragments : ∀ highlight ∈ hit.highlights, ∀ fragment ∈ highlight.fragments, IsPlain fragment

/-! ## Rows -/

section

variable (terminal : Terminal) (theme : Theme)

/-- The row of an error shows as the plain row when its message is plain. -/
theorem showsAs_errorRow {error : SyntaxError} (h : IsPlain error.message) :
    ShowsAs (errorRow terminal error) (errorRow (.colorless theme) error) := by
  have hmark : ShowsAs (terminal.themed .red .bold "!") "!" :=
    (IsPlain.showsAs (by decide)).themed terminal .red .bold
  have hblank : ShowsAs " " " " := IsPlain.showsAs (by decide)
  exact ((hblank.append hmark).append hblank).append h.showsAs

/-- The header of a hit shows as the plain header when its title and id are plain. -/
theorem showsAs_hitRow (rank : Nat) {hit : Hit} (htitle : IsPlain hit.document.title)
    (hid : IsPlain hit.document.id) :
    ShowsAs (hitRow terminal rank hit) (hitRow (.colorless theme) rank hit) := by
  have hblank : ShowsAs " " " " := IsPlain.showsAs (by decide)
  have hrank : ShowsAs (" " ++ rankText rank ++ ". ") (" " ++ rankText rank ++ ". ") :=
    (hblank.append (isPlain_rankText rank).showsAs).append (IsPlain.showsAs (by decide))
  have hplace : IsPlain ("[" ++ hit.document.kind.name ++ " " ++ shortened 16 hit.document.id
      ++ "]") := by
    simp only [isPlain_append]
    exact ⟨⟨⟨⟨by decide, isPlain_kindName _⟩, by decide⟩, hid.shortened 16⟩, by decide⟩
  have htitle' := (htitle.shortened 44).showsAs.themed terminal .green .bold
  have hplace' := hplace.showsAs.themed terminal .gray .plain
  have hscore := (isPlain_fixed 4 hit.score).showsAs.themed terminal .cyan .plain
  exact ((((hrank.append htitle').append hblank).append hplace').append hblank).append hscore

/-- The row of a fragment shows as the plain row when the fragment is plain; its line breaks become
blanks on both. -/
theorem showsAs_fragmentRow (field : MatchField) {fragment : String} (h : IsPlain fragment) :
    ShowsAs (fragmentRow terminal field fragment)
      (fragmentRow (.colorless theme) field fragment) := by
  have hline : IsPlain (.ofList (fragment.toList.map fun c => if c = '\n' then ' ' else c)) := by
    rw [IsPlain, String.toList_ofList, List.mem_map]
    rintro ⟨c, hc, heq⟩
    split at heq
    · exact absurd heq (by decide)
    · rw [heq] at hc
      exact h hc
  have hfield := (isPlain_fieldName field).showsAs.themed terminal .gray .dim
  have hmargin : ShowsAs "     " "     " := IsPlain.showsAs (by decide)
  exact ((hmargin.append hfield).append (IsPlain.showsAs (by decide))).append hline.showsAs

/-! ## Lists of rows -/

/-- Two lists made from one list by maps that agree at each element agree element by element. -/
theorem forall₂_map_same {α β γ : Type} {R : β → γ → Prop} {f : α → β} {g : α → γ} {l : List α}
    (h : ∀ a ∈ l, R (f a) (g a)) : List.Forall₂ R (l.map f) (l.map g) := by
  rw [List.forall₂_map_left_iff, List.forall₂_map_right_iff, List.forall₂_same]
  exact h

/-- Two lists of rows made from one list, with rows that agree for each element, agree row by row.
-/
theorem forall₂_flatMap_same {α β γ : Type} {R : β → γ → Prop} {f : α → List β} {g : α → List γ}
    {l : List α} (h : ∀ a ∈ l, List.Forall₂ R (f a) (g a)) :
    List.Forall₂ R (l.flatMap f) (l.flatMap g) := by
  induction l with
  | nil => exact .nil
  | cons a l ih =>
    rw [List.forall_mem_cons] at h
    exact List.rel_append h.1 (ih h.2)

/-- The rows of one hit show as the plain rows, as many of them. -/
theorem forall₂_showsAs_hitRows (rank : Nat) {hit : Hit} (h : IsPlainHit hit) :
    List.Forall₂ ShowsAs (hitRows terminal rank hit) (hitRows (.colorless theme) rank hit) := by
  refine .cons (showsAs_hitRow terminal theme rank h.title h.id) ?_
  refine forall₂_flatMap_same fun highlight hhighlight => forall₂_map_same fun fragment hmem => ?_
  exact showsAs_fragmentRow terminal theme highlight.field
    (h.fragments highlight hhighlight fragment hmem)

/-- The rows of all hits show as the plain rows, ranks counted alike. -/
theorem forall₂_showsAs_resultRows {results : List Hit} (h : ∀ hit ∈ results, IsPlainHit hit) :
    List.Forall₂ ShowsAs (resultRows terminal results)
      (resultRows (.colorless theme) results) := by
  unfold resultRows
  split
  · exact .cons ((IsPlain.showsAs (by decide)).themed terminal .gray .dim) .nil
  · refine forall₂_flatMap_same ?_
    rintro ⟨hit, rank⟩ hmem
    exact forall₂_showsAs_hitRows terminal theme rank (h hit (List.fst_mem_of_mem_zipIdx hmem))

/-! ## Reports -/

/-- The report of a search shows as the plain report, row by row. -/
theorem forall₂_showsAs_resultsReport {query : String} {results : List Hit} (total : Nat)
    {errors : List SyntaxError} (hquery : IsPlain query)
    (hresults : ∀ hit ∈ results, IsPlainHit hit)
    (herrors : ∀ error ∈ errors, IsPlain error.message) :
    List.Forall₂ ShowsAs (resultsReport terminal query results total errors)
      (resultsReport (.colorless theme) query results total errors) := by
  have hsum : IsPlain (" " ++ results.length.repr ++ " shown of " ++ total.repr
      ++ " matching") := by
    simp only [isPlain_append]
    exact ⟨⟨⟨⟨by decide, isPlain_repr _⟩, by decide⟩, isPlain_repr _⟩, by decide⟩
  have hheadline : IsPlain (headline "SEARCH" query) := hquery.headline (by decide)
  have hfaults : List.Forall₂ ShowsAs (errors.map (errorRow terminal))
      (errors.map (errorRow (.colorless theme))) :=
    forall₂_map_same fun error herror => showsAs_errorRow terminal theme (herrors error herror)
  have hrows := forall₂_showsAs_resultRows terminal theme hresults
  have hlast := hsum.showsAs.themed terminal .gray .dim
  unfold resultsReport
  exact forall₂_showsAs_box terminal theme hheadline
    (List.rel_append (List.rel_append hfaults hrows) (.cons hlast .nil))

/-- The report of suggestions shows as the plain report, row by row. -/
theorem forall₂_showsAs_suggestionsReport {beginning : String} {suggestions : List String}
    (hbeginning : IsPlain beginning) (hsuggestions : ∀ term ∈ suggestions, IsPlain term) :
    List.Forall₂ ShowsAs (suggestionsReport terminal beginning suggestions)
      (suggestionsReport (.colorless theme) beginning suggestions) := by
  have hheadline : IsPlain (headline "SUGGEST" beginning) := hbeginning.headline (by decide)
  unfold suggestionsReport
  refine forall₂_showsAs_box terminal theme hheadline ?_
  split
  · exact .cons ((IsPlain.showsAs (by decide)).themed terminal .gray .dim) .nil
  · refine forall₂_map_same fun term hterm => ShowsAs.append (IsPlain.showsAs (by decide)) ?_
    exact (hsuggestions term hterm).showsAs.themed terminal .green .plain

/-- The report of the statistics shows as the plain report, row by row. -/
theorem forall₂_showsAs_statisticsReport (statistics : Statistics) :
    List.Forall₂ ShowsAs (statisticsReport terminal statistics)
      (statisticsReport (.colorless theme) statistics) := by
  refine forall₂_showsAs_box terminal theme (by decide) (List.forall₂_same.mpr ?_)
  simp only [List.forall_mem_cons, List.not_mem_nil, false_implies, implies_true, and_true]
  exact ⟨(isPlain_append.mpr ⟨by decide, isPlain_repr _⟩).showsAs,
    (isPlain_append.mpr ⟨by decide, isPlain_repr _⟩).showsAs,
    (isPlain_append.mpr ⟨by decide, isPlain_repr _⟩).showsAs,
    (isPlain_append.mpr ⟨by decide, isPlain_fixed _ _⟩).showsAs⟩

end

/-- Where no given text has an escape character, what is written for a report on any terminal is,
without its codes, what is written on a terminal without colours. -/
theorem reports_without_codes (terminal : Terminal) (theme : Theme) :
    (∀ query results total errors, IsPlain query → (∀ hit ∈ results, IsPlainHit hit) →
        (∀ error ∈ errors, IsPlain error.message) →
        withoutCodes (written (resultsReport terminal query results total errors)) =
          written (resultsReport (.colorless theme) query results total errors)) ∧
      (∀ beginning suggestions, IsPlain beginning → (∀ term ∈ suggestions, IsPlain term) →
        withoutCodes (written (suggestionsReport terminal beginning suggestions)) =
          written (suggestionsReport (.colorless theme) beginning suggestions)) ∧
      ∀ statistics, withoutCodes (written (statisticsReport terminal statistics)) =
        written (statisticsReport (.colorless theme) statistics) := by
  refine ⟨?_, ?_, ?_⟩
  · intro query results total errors hquery hresults herrors
    exact (showsAs_written (forall₂_showsAs_resultsReport terminal theme total hquery hresults
      herrors)).withoutCodes_eq
  · intro beginning suggestions hbeginning hsuggestions
    exact (showsAs_written (forall₂_showsAs_suggestionsReport terminal theme hbeginning
      hsuggestions)).withoutCodes_eq
  · intro statistics
    exact (showsAs_written (forall₂_showsAs_statisticsReport terminal theme
      statistics)).withoutCodes_eq

/-- A block whose title is cut, an excerpt over two lines and an error, in colours for a light
background. -/
theorem reports_without_codes_block :
    ∃ hit : Hit, hit = ⟨{ Sample.page "0123456789abcdefg"
        "Deep learning from its beginnings to the present day" "" with kind := .block }, 0,
        [⟨.body, ["the <mark>deep</mark>\nsea..."], ""⟩], [.body]⟩ ∧
      (∀ shown ∈ [hit], IsPlainHit shown) ∧
      (∀ error ∈ [SyntaxError.unclosedGroup 0], IsPlain error.message) ∧
      withoutCodes (written (resultsReport ⟨true, .light⟩ "(deep" [hit] 7 [.unclosedGroup 0])) =
        written (resultsReport (.colorless .light) "(deep" [hit] 7 [.unclosedGroup 0]) := by
  obtain ⟨hit, hhit⟩ : ∃ hit : Hit, hit = ⟨{ Sample.page "0123456789abcdefg"
      "Deep learning from its beginnings to the present day" "" with kind := .block }, 0,
      [⟨.body, ["the <mark>deep</mark>\nsea..."], ""⟩], [.body]⟩ := ⟨_, rfl⟩
  have hplain : ∀ shown ∈ [hit], IsPlainHit shown := by
    rw [List.forall_mem_singleton, hhit]
    exact ⟨by decide, by decide, by decide⟩
  have herrors : ∀ error ∈ [SyntaxError.unclosedGroup 0], IsPlain error.message := by
    decide
  exact ⟨hit, hhit, hplain, herrors, (reports_without_codes ⟨true, .light⟩ .light).1 "(deep" [hit]
    7 [.unclosedGroup 0] (by decide) hplain herrors⟩

end CommandLine
end TextSearch
