import TextSearch.Proofs.CommandLine.Reports

/-!
# Widths of rows

A row is as wide as the box if its content fits between the sides, and wider by what the content has
too many.  The content of the row that a result begins with is put together from parts that are cut
to widths of their own, but the name of the kind has no such width.

Main results:

- Theorem `visibleWidth_row`: the width of any row.
- Theorems `visibleWidth_top` and `visibleWidth_bottom`: the widths of the frame.
- Theorem `length_hitRow`: the width of the content, part by part.
- Theorem `hitRow_fits_iff`: the row of a result fits the box unless a block has both a long title
  and a long identifier; then it is one character too wide.
-/

namespace TextSearch
namespace CommandLine

@[simp]
theorem length_repeated (count : Nat) (c : Char) : (repeated count c).length = count := by
  rw [repeated, String.length_ofList, List.length_replicate]

/-- A text that is cut has just the width that it is cut to. -/
theorem length_shortened {width : Nat} (hwidth : 0 < width) (text : String) :
    (shortened width text).length = min text.length width := by
  unfold shortened
  split
  · omega
  · rw [String.length_ofList, List.length_append, List.length_take, String.length_toList,
      List.length_singleton]
    omega

/-- A headline is as long as the command, at most 40 characters of the subject and three signs
between them. -/
theorem length_headline (command subject : String) :
    (headline command subject).length = command.length + min subject.length 40 + 3 := by
  have hopen : " \"".length = 2 := rfl
  have hclose : "\"".length = 1 := rfl
  simp only [headline, String.length_append, length_shortened (by decide : 0 < 40)]
  omega

/-! ## Rows and the frame -/

section

variable (terminal : Terminal)

/-- A row is as wide as the box, or wider if its content is. -/
theorem visibleWidth_row {content plain : String} (h : ShowsAs content plain) :
    visibleWidth (row terminal content) = max boxWidth plain.length + 2 := by
  have hside : (border (.colorless .dark) "│").length = 1 := rfl
  rw [(h.row terminal .dark).visibleWidth_eq, row, h.isPlain.showsAs.visibleWidth_eq]
  simp only [String.length_append, length_repeated, hside]
  omega

/-- The top border is as wide as the framed box, if the headline fits into it. -/
theorem visibleWidth_top {headline : String} (h : IsPlain headline)
    (hlength : headline.length + 3 ≤ boxWidth) :
    visibleWidth (top terminal headline) = boxWidth + 2 := by
  have hlabel : IsPlain ("─ " ++ headline ++ " ") := by
    simp only [isPlain_append]
    exact ⟨⟨by decide, h⟩, by decide⟩
  have hdash : "─ ".length = 2 := rfl
  have hblank : " ".length = 1 := rfl
  have hleft : "┌".length = 1 := rfl
  have hright : "┐".length = 1 := rfl
  rw [(showsAs_top terminal .dark h).visibleWidth_eq, top, Terminal.themed_colorless,
    hlabel.showsAs.visibleWidth_eq]
  simp only [border, Terminal.themed_colorless, String.length_append, length_repeated]
  omega

/-- The bottom border is as wide as the framed box. -/
theorem visibleWidth_bottom : visibleWidth (bottom terminal) = boxWidth + 2 := by
  have hleft : "└".length = 1 := rfl
  have hright : "┘".length = 1 := rfl
  rw [(showsAs_bottom terminal .dark).visibleWidth_eq, bottom, border, Terminal.themed_colorless]
  simp only [String.length_append, length_repeated]
  omega

end

/-! ## The row of a result -/

/-- The name of a block has five letters, and the names of other kinds have fewer. -/
theorem length_kindName_eq_five_iff {kind : Kind} : kind.name.length = 5 ↔ kind = .block := by
  cases kind <;> decide

/-- No kind has a name of more than five characters. -/
theorem length_kindName_le (kind : Kind) : kind.name.length ≤ 5 := by
  cases kind <;> decide

/-- A rank of at most two digits takes two characters. -/
theorem length_rankText {rank : Nat} (h : rank ≤ 99) : (rankText rank).length = 2 := by
  have hdigits : rank.repr.length ≤ 2 := by
    rw [← String.length_toList, Nat.toList_repr, Nat.length_toDigits_le_iff (by decide) (by decide)]
    omega
  rw [rankText, String.length_append, length_repeated]
  omega

/-- The width of the content of the row, part by part. -/
theorem length_hitRow (theme : Theme) (rank : Nat) (hit : Hit) :
    (hitRow (.colorless theme) rank hit).length =
      (rankText rank).length + min hit.document.title.length 44 + hit.document.kind.name.length +
        min hit.document.id.length 16 + (Decimal.fixed 4 hit.score).length + 8 := by
  have hblank : " ".length = 1 := rfl
  have hpoint : ". ".length = 2 := rfl
  have hopen : "[".length = 1 := rfl
  have hclose : "]".length = 1 := rfl
  simp only [hitRow, Terminal.themed_colorless, String.length_append,
    length_shortened (by decide : 0 < 44), length_shortened (by decide : 0 < 16)]
  omega

/-- The row of a result with a rank of at most two digits and a score of six characters is as wide
as the frame around it, on any terminal, unless the result is a block with a title of at least
forty-four and an identifier of at least sixteen characters; then it is one character wider. -/
theorem hitRow_fits_iff (terminal : Terminal) {rank : Nat} (hrank : rank ≤ 99) {hit : Hit}
    (htitle : IsPlain hit.document.title) (hid : IsPlain hit.document.id)
    (hscore : (Decimal.fixed 4 hit.score).length = 6) :
    (visibleWidth (row terminal (hitRow terminal rank hit)) = boxWidth + 2 ↔
        ¬ (hit.document.kind = .block ∧ 44 ≤ hit.document.title.length ∧
          16 ≤ hit.document.id.length)) ∧
      (visibleWidth (row terminal (hitRow terminal rank hit)) = boxWidth + 3 ↔
        hit.document.kind = .block ∧ 44 ≤ hit.document.title.length ∧
          16 ≤ hit.document.id.length) ∧
      (∀ query, IsPlain query →
        visibleWidth (top terminal (headline "SEARCH" query)) = boxWidth + 2) ∧
      visibleWidth (bottom terminal) = boxWidth + 2 := by
  have hwidth := visibleWidth_row terminal (showsAs_hitRow terminal .dark rank htitle hid)
  rw [length_hitRow, length_rankText hrank, hscore] at hwidth
  have hkind := length_kindName_le hit.document.kind
  have hbox : boxWidth = 80 := rfl
  refine ⟨?_, ?_, fun query hquery => ?_, visibleWidth_bottom terminal⟩
  · rw [← length_kindName_eq_five_iff]
    omega
  · rw [← length_kindName_eq_five_iff]
    omega
  · refine visibleWidth_top terminal (hquery.headline (by decide)) ?_
    have hlength := length_headline "SEARCH" query
    have hcommand : "SEARCH".length = 6 := rfl
    omega

/-- A page with a long title, a long identifier and the greatest rank fills its row. -/
theorem hitRow_fits_page :
    ∃ hit : Hit, hit = ⟨Sample.page "0123456789abcdefg"
        "Deep learning from its beginnings to the present day" "", 9.9999, [], []⟩ ∧
      IsPlain hit.document.title ∧ IsPlain hit.document.id ∧
      (Decimal.fixed 4 hit.score).length = 6 ∧ 44 ≤ hit.document.title.length ∧
      16 ≤ hit.document.id.length ∧
      visibleWidth (row ⟨true, .light⟩ (hitRow ⟨true, .light⟩ 99 hit)) = boxWidth + 2 := by
  obtain ⟨hit, hhit⟩ : ∃ hit : Hit, hit = ⟨Sample.page "0123456789abcdefg"
      "Deep learning from its beginnings to the present day" "", 9.9999, [], []⟩ := ⟨_, rfl⟩
  have htitle : IsPlain hit.document.title := by
    rw [hhit]
    decide
  have hid : IsPlain hit.document.id := by
    rw [hhit]
    decide
  have hscore : (Decimal.fixed 4 hit.score).length = 6 := by
    rw [hhit]
    decide +kernel
  have hkind : hit.document.kind ≠ .block := by
    rw [hhit]
    decide
  refine ⟨hit, hhit, htitle, hid, hscore, ?_, ?_, ?_⟩
  · rw [hhit]
    decide
  · rw [hhit]
    decide
  · exact (hitRow_fits_iff ⟨true, .light⟩ (by decide) htitle hid hscore).1.mpr
      fun hlong => hkind hlong.1

/-- A block with a title and an identifier of just the widths that they are cut to: nothing is cut,
and the row sticks out of the box. -/
theorem hitRow_block_too_wide :
    ∃ hit : Hit, hit = ⟨{ Sample.page "0123456789abcdef"
        "note aaaaaaaaaabbbbbbbbbbccccccccccddddddddd" "" with kind := .block }, 0, [], []⟩ ∧
      IsPlain hit.document.title ∧ IsPlain hit.document.id ∧
      '\n' ∉ hit.document.title.toList ∧ '\n' ∉ hit.document.id.toList ∧
      Decimal.fixed 4 hit.score = "0.0000" ∧
      visibleWidth (row ⟨false, .dark⟩ (hitRow ⟨false, .dark⟩ 1 hit)) = boxWidth + 3 ∧
      visibleWidth (row ⟨false, .dark⟩ (hitRow ⟨false, .dark⟩ 1 hit)) ≠ boxWidth + 2 := by
  have hwidth : visibleWidth (row ⟨false, .dark⟩ (hitRow ⟨false, .dark⟩ 1
      ⟨{ Sample.page "0123456789abcdef" "note aaaaaaaaaabbbbbbbbbbccccccccccddddddddd" "" with
        kind := .block }, 0, [], []⟩)) = boxWidth + 3 := by
    rw [visibleWidth_row _ (showsAs_hitRow _ .dark 1 (by decide) (by decide)), length_hitRow,
      length_rankText (by decide)]
    decide +kernel
  refine ⟨_, rfl, by decide, by decide, by decide, by decide, by decide +kernel, hwidth, ?_⟩
  rw [hwidth]
  decide

end CommandLine
end TextSearch
