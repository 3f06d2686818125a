import Mathlib.Data.List.Forall2
import TextSearch.CommandLine.Report

/-!
# Texts with codes

Codes take no room and are not part of what is read.  A text with codes shows as the text that is
left when they are left out.  This goes for texts that are put together from others, for coloured
texts within coloured texts, and for the boxes around them: the room that is filled up in a row is
measured without the codes.

Main results:

- Theorems `ShowsAs.withoutCodes_eq` and `ShowsAs.visibleWidth_eq`: what is left of a text without
  its codes, and the room that it takes.
- Theorem `ShowsAs.themed`: a coloured text shows as the text, whatever codes it has itself.
- Theorem `ShowsAs.row`: a row shows as the same row on a terminal without colours.
- Theorem `forall₂_showsAs_box`: a box shows line by line as the same box without colours.
-/

namespace TextSearch
namespace CommandLine

/-! ## Leaving out codes -/

/-- Leave out codes: each escape character with all that is behind it, up to the next letter `m`.
What has been read of a code is held, the last character first; what is still held at the end is no
code, and stays. -/
def dropCodes (held : List Char) : List Char → List Char
  | [] => held.reverse
  | c :: cs =>
    if held = [] then
      if c = '\x1b' then dropCodes [c] cs else c :: dropCodes [] cs
    else if c = 'm' then dropCodes [] cs
    else dropCodes (c :: held) cs

/-- A text without its codes. -/
def withoutCodes (text : String) : String :=
  .ofList (dropCodes [] text.toList)

/-- There is no escape character in the text. -/
def IsPlain (text : String) : Prop :=
  '\x1b' ∉ text.toList

instance (text : String) : Decidable (IsPlain text) :=
  inferInstanceAs (Decidable (_ ∉ _))

/-- The first characters are the second ones with codes between them; none of the second ones is an
escape character. -/
inductive CodesIn : List Char → List Char → Prop
  | nil : CodesIn [] []
  | char {c : Char} {text plain : List Char} (hc : c ≠ '\x1b') (h : CodesIn text plain) :
    CodesIn (c :: text) (c :: plain)
  | code {inside text plain : List Char} (hinside : 'm' ∉ inside) (h : CodesIn text plain) :
    CodesIn ('\x1b' :: (inside ++ 'm' :: text)) plain

/-- Within a code, all is left out up to its end. -/
theorem dropCodes_append {held inside : List Char} (hheld : held ≠ []) (hinside : 'm' ∉ inside)
    (rest : List Char) : dropCodes held (inside ++ 'm' :: rest) = dropCodes [] rest := by
  induction inside generalizing held with
  | nil => simp [dropCodes, hheld]
  | cons c inside ih =>
    rw [List.mem_cons, not_or] at hinside
    rw [List.cons_append, dropCodes, if_neg hheld, if_neg (Ne.symm hinside.1),
      ih (List.cons_ne_nil _ _) hinside.2]

/-- Within a code, nothing takes room up to its end. -/
theorem visibleFrom_append {inside : List Char} (hinside : 'm' ∉ inside) (width : Nat)
    (rest : List Char) :
    visibleFrom true width (inside ++ 'm' :: rest) = visibleFrom false width rest := by
  induction inside with
  | nil => simp [visibleFrom]
  | cons c inside ih =>
    rw [List.mem_cons, not_or] at hinside
    have hgoes : (c != 'm') = true := bne_iff_ne.mpr (Ne.symm hinside.1)
    rw [List.cons_append, visibleFrom, if_pos rfl, hgoes, ih hinside.2, ite_self]

namespace CodesIn

variable {text plain text' plain' : List Char}

/-- Scanning from outside any code finds the plain text. -/
theorem dropCodes_eq (h : CodesIn text plain) : dropCodes [] text = plain := by
  induction h with
  | nil => rfl
  | char hc _ ih => rw [dropCodes, if_pos rfl, if_neg hc, ih]
  | code hinside _ ih =>
    rw [dropCodes, if_pos rfl, if_pos rfl, dropCodes_append (List.cons_ne_nil _ _) hinside, ih]

/-- Counting from outside any code adds one column for each plain character. -/
theorem visibleFrom_eq (h : CodesIn text plain) (width : Nat) :
    visibleFrom false width text = width + plain.length := by
  induction h generalizing width with
  | nil => rfl
  | char hc _ ih =>
    rw [visibleFrom, if_neg hc, if_neg Bool.false_ne_true, ih, List.length_cons]
    omega
  | code hinside _ ih => rw [visibleFrom, if_pos rfl, visibleFrom_append hinside, ih]

/-- Codes stay where they are when texts are joined. -/
theorem append (h : CodesIn text plain) (h' : CodesIn text' plain') :
    CodesIn (text ++ text') (plain ++ plain') := by
  induction h with
  | nil => exact h'
  | char hc _ ih => exact .char hc ih
  | code hinside _ ih =>
    rw [List.cons_append, List.append_assoc]
    exact .code hinside ih

/-- The plain text has no escape character. -/
theorem not_mem (h : CodesIn text plain) : '\x1b' ∉ plain := by
  induction h with
  | nil => exact List.not_mem_nil
  | char hc _ ih => exact List.not_mem_cons_of_ne_of_not_mem (Ne.symm hc) ih
  | code _ _ ih => exact ih

theorem of_not_mem (h : '\x1b' ∉ plain) : CodesIn plain plain := by
  induction plain with
  | nil => exact .nil
  | cons c plain ih =>
    rw [List.mem_cons, not_or] at h
    exact .char (Ne.symm h.1) (ih h.2)

end CodesIn

/-! ## Texts that show as others -/

/-- The text is the plain one with codes between its characters. -/
def ShowsAs (text plain : String) : Prop :=
  CodesIn text.toList plain.toList

/-- A plain text shows as itself. -/
theorem IsPlain.showsAs {text : String} (h : IsPlain text) : ShowsAs text text :=
  CodesIn.of_not_mem h

/-- A joined text is plain exactly when both halves are. -/
@[simp]
theorem isPlain_append {text text' : String} :
    IsPlain (text ++ text') ↔ IsPlain text ∧ IsPlain text' := by
  rw [IsPlain, String.toList_append, List.mem_append, not_or]
  rfl

theorem isPlain_repeated (count : Nat) {c : Char} (hc : c ≠ '\x1b') :
    IsPlain (repeated count c) := by
  rw [IsPlain, repeated, String.toList_ofList]
  intro h
  exact hc (List.eq_of_mem_replicate h).symm

/-- A code shows as nothing. -/
theorem showsAs_code {inside : String} (h : 'm' ∉ inside.toList) : ShowsAs (code inside) "" := by
  have hinside : 'm' ∉ '[' :: inside.toList := List.not_mem_cons_of_ne_of_not_mem (by decide) h
  have hcode : (code inside).toList = '\x1b' :: ('[' :: inside.toList ++ 'm' :: []) := by
    simp [code]
  rw [ShowsAs, hcode]
  exact .code hinside .nil

theorem showsAs_resetCode : ShowsAs resetCode "" :=
  showsAs_code (by decide)

/-- The code of a weight shows as nothing. -/
theorem showsAs_code_weight (weight : Weight) : ShowsAs weight.code "" := by
  cases weight with
  | plain => exact .nil
  | bold => exact showsAs_code (by decide)
  | dim => exact showsAs_code (by decide)

/-- The code of a colour shows as nothing under either theme. -/
theorem showsAs_code_color (theme : Theme) (color : Color) : ShowsAs (color.code theme) "" := by
  refine showsAs_code ?_
  cases theme <;> cases color <;> decide

/-- A terminal without colours. -/
def Terminal.colorless (theme : Theme) : Terminal :=
  ⟨false, theme⟩

/-- A terminal without colours leaves the text as it is. -/
@[simp]
theorem Terminal.themed_colorless (theme : Theme) (color : Color) (weight : Weight)
    (text : String) : (colorless theme).themed color weight text = text :=
  rfl

namespace ShowsAs

variable {text plain text' plain' : String}

/-- Dropping the codes of a text gives what it shows. -/
theorem withoutCodes_eq (h : ShowsAs text plain) : withoutCodes text = plain := by
  rw [withoutCodes, CodesIn.dropCodes_eq h, String.ofList_toList]

/-- A text is as wide as what it shows is long. -/
theorem visibleWidth_eq (h : ShowsAs text plain) : visibleWidth text = plain.length := by
  rw [visibleWidth, CodesIn.visibleFrom_eq h, Nat.zero_add, String.length_toList]

theorem isPlain (h : ShowsAs text plain) : IsPlain plain :=
  CodesIn.not_mem h

/-- What joined texts show is what they show, joined. -/
theorem append (h : ShowsAs text plain) (h' : ShowsAs text' plain') :
    ShowsAs (text ++ text') (plain ++ plain') := by
  rw [ShowsAs, String.toList_append, String.toList_append]
  exact CodesIn.append h h'

/-- A coloured text shows as the text, whatever codes it has itself. -/
theorem themed (h : ShowsAs text plain) (terminal : Terminal) (color : Color) (weight : Weight) :
    ShowsAs (terminal.themed color weight text) plain := by
  unfold Terminal.themed
  split
  · have hcodes := (showsAs_code_weight weight).append (showsAs_code_color terminal.theme color)
    simpa using (hcodes.append h).append showsAs_resetCode
  · exact h

/-- Without its codes, the plain text takes the same room. -/
theorem visibleWidth_eq_visibleWidth (h : ShowsAs text plain) :
    visibleWidth text = visibleWidth plain := by
  rw [h.visibleWidth_eq, h.isPlain.showsAs.visibleWidth_eq]

end ShowsAs

/-! ## Boxes -/

section

variable (terminal : Terminal) (theme : Theme)

/-- A row between borders shows as the plain row between plain borders; the padding is the same,
being counted from the visible width. -/
theorem ShowsAs.border {text plain : String} (h : ShowsAs text plain) :
    ShowsAs (border terminal text) (border (.colorless theme) plain) := by
  rw [CommandLine.border, CommandLine.border, Terminal.themed_colorless]
  exact h.themed terminal .gray .plain

/-- A row shows as the same row without colours. -/
theorem ShowsAs.row {content plain : String} (h : ShowsAs content plain) :
    ShowsAs (row terminal content) (row (.colorless theme) plain) := by
  have hside : ShowsAs (CommandLine.border terminal "│")
      (CommandLine.border (.colorless theme) "│") :=
    (IsPlain.showsAs (by decide)).border terminal theme
  rw [CommandLine.row, CommandLine.row, h.visibleWidth_eq_visibleWidth]
  exact ((hside.append h).append (isPlain_repeated _ (by decide)).showsAs).append hside

/-- The top border shows as the plain one. -/
theorem showsAs_top {headline : String} (h : IsPlain headline) :
    ShowsAs (top terminal headline) (top (.colorless theme) headline) := by
  have hlabel : ShowsAs ("─ " ++ terminal.themed .cyan .bold headline ++ " ")
      ("─ " ++ headline ++ " ") :=
    ((IsPlain.showsAs (by decide)).append (h.showsAs.themed terminal .cyan .bold)).append
      (IsPlain.showsAs (by decide))
  have hcorner : ShowsAs (border terminal "┌") (border (.colorless theme) "┌") :=
    (IsPlain.showsAs (by decide)).border terminal theme
  rw [top, top, Terminal.themed_colorless, hlabel.visibleWidth_eq_visibleWidth]
  refine (hcorner.append (hlabel.border terminal theme)).append (ShowsAs.border _ _ ?_)
  exact (isPlain_repeated _ (by decide)).showsAs.append (IsPlain.showsAs (by decide))

theorem showsAs_bottom : ShowsAs (bottom terminal) (bottom (.colorless theme)) := by
  have hplain : IsPlain ("└" ++ repeated boxWidth '─' ++ "┘") := by
    simp only [isPlain_append]
    exact ⟨⟨by decide, isPlain_repeated _ (by decide)⟩, by decide⟩
  exact hplain.showsAs.border terminal theme

/-- A box shows line by line as the same box without colours. -/
theorem forall₂_showsAs_box {headline : String} (hheadline : IsPlain headline)
    {rows plains : List String} (h : List.Forall₂ ShowsAs rows plains) :
    List.Forall₂ ShowsAs (box terminal headline rows)
      (box (.colorless theme) headline plains) := by
  have hrows : List.Forall₂ ShowsAs (rows.map (row terminal))
      (plains.map (row (.colorless theme))) := by
    rw [List.forall₂_map_left_iff, List.forall₂_map_right_iff]
    exact h.imp fun _ _ hrow => hrow.row terminal theme
  exact .cons (showsAs_top terminal theme hheadline)
    (List.rel_append hrows (.cons (showsAs_bottom terminal theme) .nil))

end

/-! ## Lines that are written -/

/-- What is written for lines: each of them with an end of line behind it. -/
def written (lines : List String) : String :=
  .ofList (lines.flatMap fun line => line.toList ++ ['\n'])

/-- What is written for lines shows as what is written for the plain ones. -/
theorem showsAs_written {lines plains : List String} (h : List.Forall₂ ShowsAs lines plains) :
    ShowsAs (written lines) (written plains) := by
  rw [ShowsAs, written, written, String.toList_ofList, String.toList_ofList]
  induction h with
  | nil => exact .nil
  | cons hline _ ih =>
    rw [List.flatMap_cons, List.flatMap_cons]
    exact (CodesIn.append hline (.char (by decide) .nil)).append ih

end CommandLine
end TextSearch
