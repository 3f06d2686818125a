import TextSearch.Proofs.Search.Highlighting
import TextSearch.Proofs.Text.Folding

/-!
# Fragments

A field that is shown has one fragment for each occurrence of a term, up to the number of fragments
that may be shown.  A fragment is told here by the text it is made of: a window of the field, which
is cut at the occurrences of the term in it, and the marks around them.  Taking the marks away gives
back the window.

A window that is not smaller than its term holds the whole occurrence it is made for.  But what is
looked for in the field is the folded form of the term, and what is marked in the window are its
letters: where a character is estranged, its folded form being no form of its letter, it may be that
nothing is marked.

Main results:

- Theorem `Document.highlights_of_occurrences`: which fragments a field has, and what they show.
- Theorem `Document.shows_of_occurrences`: when a fragment shows the term it is made for.
- Theorem `Document.not_shows_dotted`: a fragment that does not.
-/

namespace TextSearch

/-! ## Texts that are cut at occurrences -/

/-- A text between marks. -/
def Marks.around (marks : Marks) (text : List Char) : List Char :=
  marks.before.toList ++ text ++ marks.after.toList

/-- A text that is cut at occurrences: each with what stands between it and the one before it, and
what is left behind the last one. -/
structure Cutting where
  pieces : List (List Char × List Char)
  rest : List Char

namespace Cutting

/-- An occurrence in front of the others. -/
def cons (gap found : List Char) (cutting : Cutting) : Cutting :=
  ⟨(gap, found) :: cutting.pieces, cutting.rest⟩

/-- The text that has been cut. -/
def text (cutting : Cutting) : List Char :=
  cutting.pieces.flatMap (fun piece => piece.1 ++ piece.2) ++ cutting.rest

/-- The text with marks around the occurrences. -/
def marked (marks : Marks) (cutting : Cutting) : List Char :=
  cutting.pieces.flatMap (fun piece => piece.1 ++ marks.around piece.2) ++ cutting.rest

/-- Where the occurrences start, if the text is at an offset. -/
def startsFrom (offset : Nat) : List (List Char × List Char) → List Nat
  | [] => []
  | (gap, found) :: pieces =>
    (offset + gap.length) :: startsFrom (offset + gap.length + found.length) pieces

/-- Where the occurrences start in the text. -/
def starts (cutting : Cutting) : List Nat :=
  startsFrom 0 cutting.pieces

/-- A text that is at an offset, cut at occurrences of the given width. -/
def ofStarts (width : Nat) : Nat → List Nat → List Char → Cutting
  | _, [], text => ⟨[], text⟩
  | offset, start :: starts, text =>
    let gap := start - offset
    (ofStarts width (start + width) starts (text.drop (gap + width))).cons
      (text.take gap) ((text.drop gap).take width)

variable {width offset : Nat} {starts : List Nat} {text : List Char}

/-- A cutting begins with its first gap and the first occurrence behind it. -/
@[simp]
theorem text_cons (gap found : List Char) (cutting : Cutting) :
    (cutting.cons gap found).text = gap ++ found ++ cutting.text := by
  simp [text, cons]

/-- Marking goes around the first occurrence and leaves the gap before it as it is. -/
@[simp]
theorem marked_cons (marks : Marks) (gap found : List Char) (cutting : Cutting) :
    (cutting.cons gap found).marked marks =
      gap ++ marks.around found ++ cutting.marked marks := by
  simp [marked, cons]

/-- Each occurrence stands between marks. -/
theorem around_infix_marked (marks : Marks) {cutting : Cutting}
    {piece : List Char × List Char} (h : piece ∈ cutting.pieces) :
    marks.around piece.2 <:+: cutting.marked marks := by
  have hpiece : piece.1 ++ marks.around piece.2 <:+:
      cutting.pieces.flatMap fun piece => piece.1 ++ marks.around piece.2 :=
    List.infix_of_mem_flatten (List.mem_map_of_mem h)
  exact (List.infix_append_right.trans hpiece).trans List.infix_append_left

theorem pieces_ne_nil {cutting : Cutting} {start : Nat} (h : start ∈ cutting.starts) :
    cutting.pieces ≠ [] := by
  intro hnil
  rw [starts, hnil, startsFrom] at h
  simp at h

/-- Cutting a text at any places loses nothing of it. -/
theorem text_ofStarts : (ofStarts width offset starts text).text = text := by
  induction starts generalizing offset text with
  | nil => rfl
  | cons start starts ih =>
    rw [ofStarts, text_cons, ih, ← List.take_add, List.take_append_drop]

/-- Occurrences that share no character are cut out where they start. -/
theorem startsFrom_ofStarts (hbehind : ∀ start ∈ starts, offset ≤ start)
    (hapart : starts.Pairwise fun first second => first + width ≤ second)
    (hwithin : ∀ start ∈ starts, start + width ≤ offset + text.length) :
    startsFrom offset (ofStarts width offset starts text).pieces = starts := by
  induction starts generalizing offset text with
  | nil => rfl
  | cons start starts ih =>
    rw [List.forall_mem_cons] at hbehind hwithin
    rw [List.pairwise_cons] at hapart
    have hgap : offset + (text.take (start - offset)).length = start := by
      rw [List.length_take]
      omega
    have hfound : ((text.drop (start - offset)).take width).length = width := by
      rw [List.length_take, List.length_drop]
      omega
    rw [ofStarts, cons, startsFrom, hgap, hfound, ih hapart.1 hapart.2]
    intro other hother
    have hinside := hwithin.2 other hother
    rw [List.length_drop]
    omega

/-- What is cut out is what stands in the text from one of the starts on. -/
theorem exists_start_of_mem (hbehind : ∀ start ∈ starts, offset ≤ start)
    (hapart : starts.Pairwise fun first second => first + width ≤ second)
    {piece : List Char × List Char} (h : piece ∈ (ofStarts width offset starts text).pieces) :
    ∃ start ∈ starts, piece.2 = (text.drop (start - offset)).take width := by
  induction starts generalizing offset text with
  | nil => simp [ofStarts] at h
  | cons start starts ih =>
    rw [List.forall_mem_cons] at hbehind
    rw [List.pairwise_cons] at hapart
    rw [ofStarts, cons, List.mem_cons] at h
    rcases h with rfl | h
    · exact ⟨start, List.mem_cons_self, rfl⟩
    · obtain ⟨other, hother, heq⟩ := ih hapart.1 hapart.2 h
      refine ⟨other, List.mem_cons_of_mem _ hother, ?_⟩
      have hle := hapart.1 other hother
      rw [heq, List.drop_drop]
      congr 2
      omega

end Cutting

namespace Excerpt

open Text (SameLetters StandsAt Leftmost sameLetter foldChars)

/-! ## Marks around the occurrences of a term -/

/-- The text is cut at the leftmost occurrences of the term, in whatever case, that do not overlap,
and marks are put around them. -/
def IsMarked (marks : Marks) (term text marked : List Char) : Prop :=
  ∃ cutting : Cutting, cutting.text = text ∧ cutting.marked marks = marked ∧
    (∀ piece ∈ cutting.pieces, SameLetters term piece.2) ∧
    Leftmost sameLetter term text cutting.starts

/-- The marking loop writes the marked text of the cutting, behind what is done. -/
theorem markFrom_eq {marks : Marks} {width offset : Nat} {done : List Char} {starts : List Nat}
    {text : List Char} :
    markFrom marks width done offset starts text =
      done.reverse ++ (Cutting.ofStarts width offset starts text).marked marks := by
  induction starts generalizing done offset text with
  | nil => simp [markFrom, Cutting.ofStarts, Cutting.marked]
  | cons start starts ih =>
    rw [markFrom, ih, Cutting.ofStarts, Cutting.marked_cons]
    simp [Marks.around]

/-- A text is marked at the leftmost occurrences of the term. -/
theorem isMarked_mark {marks : Marks} {term text : List Char} (hne : term ≠ []) :
    IsMarked marks term text (mark marks term text) := by
  have hfound : Leftmost sameLetter term text (Text.starts sameLetter term text) :=
    (Text.leftmost_iff hne).mpr rfl
  refine ⟨.ofStarts term.length 0 (Text.starts sameLetter term text) text,
    Cutting.text_ofStarts, ?_, ?_, ?_⟩
  · rw [mark, markFrom_eq]
    rfl
  · intro piece hpiece
    obtain ⟨start, hstart, heq⟩ :=
      Cutting.exists_start_of_mem hfound.behind hfound.apart hpiece
    rw [heq]
    exact hfound.stands start hstart
  · rw [Cutting.starts, Cutting.startsFrom_ofStarts hfound.behind hfound.apart]
    · exact hfound
    · intro start hstart
      rw [Nat.zero_add]
      exact (hfound.stands start hstart).add_le_length hne

/-! ## Windows -/

/-- The window between two bounds around a match, in a text of the given length. -/
structure IsWindow (size length start width first last : Nat) : Prop where
  ordered : first ≤ last
  inside : last ≤ length
  small : last - first ≤ size
  /-- It begins half its size before the middle of the match, or with the text. -/
  centred : first = start + width / 2 - size / 2
  /-- It is smaller than it may be only at the end of the text. -/
  filled : last = first + size ∨ last = length
  /-- A match that is not wider than the window lies within it. -/
  whole : width ≤ size → first ≤ start ∧ start + width ≤ last

/-- The computed window meets the conditions on a window. -/
theorem isWindow_window {size length start width : Nat} (h : start + width ≤ length) :
    IsWindow size length start width (window size length start width).1
      (window size length start width).2 where
  ordered := Nat.min_le_right _ _
  inside := Nat.min_le_right _ _
  small := by
    simp only [window]
    omega
  centred := by
    simp only [window]
    omega
  filled := by
    simp only [window]
    omega
  whole hwidth := by
    simp only [window]
    omega

/-! ## Fragments -/

/-- The fragment for a term at a start: a window of the text with the occurrences of the term in it
between marks, and an ellipsis on each side where the window does not reach the end of the text. -/
def IsFragment (options : Options) (text term : List Char) (start : Nat) (fragment : String) :
    Prop :=
  ∃ first last marked,
    IsWindow options.fragmentSize text.length start term.length first last ∧
    IsMarked options.marks term ((text.drop first).take (last - first)) marked ∧
    fragment.toList = (if first = 0 then [] else "...".toList) ++ marked ++
      (if last = text.length then [] else "...".toList)

/-- An ellipsis stands on a side unless the window reaches that end. -/
theorem toList_ellipsis {p q : Prop} [Decidable p] [Decidable q] (h : p ↔ ¬ q) :
    (if p then ellipsis else "").toList = if q then [] else "...".toList := by
  by_cases hq : q
  · rw [if_neg (mt h.mp (not_not_intro hq)), if_pos hq]
    rfl
  · rw [if_pos (h.mpr hq), if_neg hq]
    rfl

/-- The computed fragment meets the conditions on a fragment of its occurrence. -/
theorem isFragment_fragment {options : Options} {text term : List Char} {start : Nat}
    (hne : term ≠ []) (hwithin : start + term.length ≤ text.length) :
    IsFragment options text term start (fragment options text.toArray term start) := by
  have hwindow := @isWindow_window options.fragmentSize _ _ _ hwithin
  generalize hbounds : window options.fragmentSize text.length start term.length = bounds at hwindow
  obtain ⟨first, last⟩ := bounds
  refine ⟨first, last, _, hwindow, isMarked_mark hne, ?_⟩
  have hbefore := @toList_ellipsis (0 < first) _ _ _ Nat.pos_iff_ne_zero
  have hafter : last < text.length ↔ last ≠ text.length := by
    have hinside := hwindow.inside
    omega
  rw [fragment, List.size_toArray, hbounds]
  simp only [String.toList_append, hbefore, toList_ellipsis hafter, String.toList_ofList,
    Array.toList_extract, List.extract_eq_take_drop]

/-- An occurrence of the term, in whatever case, stands between marks. -/
def Shows (marks : Marks) (term : List Char) (fragment : String) : Prop :=
  ∃ occurrence, SameLetters term occurrence ∧ marks.around occurrence <:+: fragment.toList

/-- A fragment in which the letters of the term stand at its start shows the term. -/
theorem IsFragment.shows {options : Options} {text term : List Char} {start : Nat}
    {fragment : String} (h : IsFragment options text term start fragment)
    (hsize : term.length ≤ options.fragmentSize)
    (hletters : SameLetters term ((text.drop start).take term.length)) :
    Shows options.marks term fragment := by
  obtain ⟨first, last, _, hwindow, ⟨cutting, htext, rfl, hpieces, hleftmost⟩, hfragment⟩ := h
  obtain ⟨hfirst, hlast⟩ := hwindow.whole hsize
  have hstands : StandsAt sameLetter term ((text.drop first).take (last - first))
      (start - first) := by
    rw [StandsAt, List.drop_take, List.drop_drop, List.take_take]
    have hstart : first + (start - first) = start := by omega
    have hwidth : min term.length (last - first - (start - first)) = term.length := by omega
    rw [hstart, hwidth]
    exact hletters
  obtain ⟨found, hfound, -⟩ := hleftmost.covers _ (Nat.zero_le _) hstands
  obtain ⟨piece, hpiece⟩ := List.exists_mem_of_ne_nil _ (Cutting.pieces_ne_nil hfound)
  refine ⟨piece.2, hpieces piece hpiece, (Cutting.around_infix_marked _ hpiece).trans ?_⟩
  rw [hfragment]
  exact List.infix_append _ _ _

/-! ## Occurrences of terms -/

/-- The occurrences of terms in a text, each a term with its start: term by term, in their order,
the leftmost ones of the folded term in the folded text that do not overlap. -/
def AreOccurrences (terms : List (List Char)) (text : List Char) (found : List (List Char × Nat)) :
    Prop :=
  ∃ starts : List Char → List Nat,
    (∀ term ∈ terms, Leftmost (· == ·) (foldChars term) (foldChars text) (starts term)) ∧
    found = terms.flatMap fun term => (starts term).map fun start => (term, start)

variable {terms : List (List Char)} {text : List Char} {found : List (List Char × Nat)}

/-- The model finds these occurrences and no others. -/
theorem areOccurrences_iff (hne : ∀ term ∈ terms, term ≠ []) :
    AreOccurrences terms text found ↔ found = occurrences terms (foldChars text) := by
  constructor
  · rintro ⟨starts, hstarts, rfl⟩
    refine List.flatMap_congr fun term hterm => ?_
    rw [(Text.leftmost_iff (Text.foldChars_ne_nil (hne term hterm))).mp (hstarts term hterm)]
  · intro hfound
    exact ⟨_, fun term hterm => (Text.leftmost_iff (Text.foldChars_ne_nil (hne term hterm))).mpr rfl,
      hfound⟩

/-- An occurrence is one of the terms, and where it starts stands a text with the same folded
form. -/
theorem AreOccurrences.of_mem (h : AreOccurrences terms text found)
    (hne : ∀ term ∈ terms, term ≠ []) {term : List Char} {start : Nat}
    (hmem : (term, start) ∈ found) :
    term ∈ terms ∧ start + term.length ≤ text.length ∧
      foldChars ((text.drop start).take term.length) = foldChars term := by
  obtain ⟨starts, hstarts, rfl⟩ := h
  simp only [List.mem_flatMap, List.mem_map, Prod.mk.injEq] at hmem
  obtain ⟨_, hterm, _, hstart, rfl, rfl⟩ := hmem
  have hstands := (hstarts _ hterm).stands _ hstart
  have hwithin := hstands.add_le_length (Text.foldChars_ne_nil (hne _ hterm))
  rw [Text.standsAt_beq_iff] at hstands
  simp only [foldChars, List.length_map] at hwithin hstands ⊢
  rw [List.map_take, List.map_drop]
  exact ⟨hterm, hwithin, hstands⟩

/-- If all terms can be looked for, those that are not empty are. -/
theorem searchable_eq {terms : List String}
    (hlook : ∀ term ∈ terms, AutomatonSize.canLookFor term.toList = true) :
    searchable terms = (terms.map String.toList).filter (· ≠ []) := by
  refine List.filter_congr fun term hterm => ?_
  obtain ⟨word, hword, rfl⟩ := List.mem_map.mp hterm
  rw [hlook word hword, Bool.and_true]
  cases word.toList <;> rfl

/-- What holds of each occurrence and its fragment holds of those that are shown. -/
theorem forall₂_of_ofField {options : Options} {field : MatchField} {text : String}
    {highlight : Highlight} {R : List Char × Nat → String → Prop}
    (h : ofField options terms field text = some highlight)
    (hR : ∀ occurrence ∈ occurrences terms (foldChars text.toList),
      R occurrence (fragment options text.toList.toArray occurrence.1 occurrence.2)) :
    List.Forall₂ R ((occurrences terms (foldChars text.toList)).take options.maxFragments)
      highlight.fragments := by
  rw [of_ofField h, List.forall₂_map_right_iff, List.forall₂_same]
  exact fun occurrence hmem => hR occurrence (List.mem_of_mem_take hmem)

end Excerpt

/-! ## Fragments of the fields of a document -/

namespace Document

open Excerpt (AreOccurrences IsFragment Shows)

variable {document : Document} {field : MatchField} {text : String}

/-- The title comes first, and no field comes twice. -/
theorem fields_sublist (document : Document) (options : Options) (terms : List String) :
    ((document.highlights options terms).map (·.field)).Sublist [.title, .body] := by
  have hkept : ∀ (f : MatchField × String → Option Highlight) (entries : List _),
      (∀ entry highlight, f entry = some highlight → highlight.field = entry.1) →
        ((entries.filterMap f).map (·.field)).Sublist (entries.map (·.1)) := by
    intro f entries hf
    induction entries with
    | nil => exact .slnil
    | cons entry entries ih =>
      cases hentry : f entry with
      | none =>
        rw [List.filterMap_cons_none hentry]
        exact ih.cons entry.1
      | some highlight =>
        rw [List.filterMap_cons_some hentry, List.map_cons, List.map_cons, hf entry _ hentry]
        exact ih.cons_cons entry.1
  exact hkept (fun entry => Excerpt.ofField options (Excerpt.searchable terms) entry.1 entry.2)
    [(.title, document.title), (.body, document.body)]
    fun entry highlight hentry => Excerpt.field_of_ofField hentry

/-- A field is left out exactly if no fragments may be shown or no term occurs in it.  Otherwise it
has one entry, with its whole text and with one fragment for each of the first occurrences, in
their order. -/
theorem highlights_of_occurrences (htext : document.textOf? field = some text)
    {options : Options} {terms : List String}
    (hlook : ∀ term ∈ terms, AutomatonSize.canLookFor term.toList = true) :
    ((document.highlights options terms).map (·.field)).Sublist [.title, .body] ∧
    ∃ found, AreOccurrences ((terms.map String.toList).filter (· ≠ [])) text.toList found ∧
      (¬ document.Highlighted options terms field ↔ options.maxFragments = 0 ∨ found = []) ∧
      ∀ highlight ∈ document.highlights options terms, highlight.field = field →
        highlight.original = text ∧
        highlight.fragments.length = min options.maxFragments found.length ∧
        List.Forall₂ (fun (term, start) fragment =>
            IsFragment options text.toList term start fragment)
          (found.take options.maxFragments) highlight.fragments := by
  rw [← Excerpt.searchable_eq hlook]
  have hne := @Excerpt.ne_nil_of_mem_searchable terms
  have hfound : AreOccurrences (Excerpt.searchable terms) text.toList
      (Excerpt.occurrences (Excerpt.searchable terms) (Text.foldChars text.toList)) :=
    (Excerpt.areOccurrences_iff hne).mpr rfl
  refine ⟨fields_sublist document options terms, _, hfound, ?_, ?_⟩
  · rw [highlighted_iff_isSome htext, Bool.not_eq_true, Option.isSome_eq_false_iff,
      Option.isNone_iff_eq_none, Excerpt.ofField_eq_none_iff]
  · intro highlight hmem hfield
    have hhighlight := (mem_highlights_iff htext options terms highlight).mp ⟨hmem, hfield⟩
    have hfragments : List.Forall₂ (fun (term, start) fragment =>
        IsFragment options text.toList term start fragment)
        ((Excerpt.occurrences (Excerpt.searchable terms)
          (Text.foldChars text.toList)).take options.maxFragments) highlight.fragments := by
      refine Excerpt.forall₂_of_ofField hhighlight ?_
      rintro ⟨term, start⟩ hoccurrence
      obtain ⟨hterm, hwithin, -⟩ := hfound.of_mem hne hoccurrence
      exact Excerpt.isFragment_fragment (hne term hterm) hwithin
    refine ⟨?_, ?_, hfragments⟩
    · rw [Excerpt.of_ofField hhighlight]
    · rw [← hfragments.length_eq, List.length_take]

/-- Of two occurrences one may be shown, in a window of its own width; the rest of the text is left
out behind it. -/
theorem highlights_of_occurrences_narrow :
    ∃ page options terms found, page = Sample.page "p" "" "Rust, RUST" ∧
      options = { Options.standard with fragmentSize := 4, maxFragments := 1 } ∧
      terms = ["rust", ""] ∧
      AreOccurrences ["rust".toList] page.body.toList found ∧
      found = [("rust".toList, 0), ("rust".toList, 6)] ∧
      page.Highlighted options terms .body ∧
      page.highlights options terms = [⟨.body, ["<mark>Rust</mark>..."], "Rust, RUST"⟩] ∧
      IsFragment options page.body.toList "rust".toList 0 "<mark>Rust</mark>..." := by
  obtain ⟨page, hpage⟩ : ∃ page, page = Sample.page "p" "" "Rust, RUST" := ⟨_, rfl⟩
  obtain ⟨options, hoptions⟩ : ∃ options,
      options = { Options.standard with fragmentSize := 4, maxFragments := 1 } := ⟨_, rfl⟩
  have hlook : ∀ term ∈ ["rust", ""], AutomatonSize.canLookFor term.toList = true := by
    unfold AutomatonSize.canLookFor AutomatonSize.ofLetter AutomatonSize.formSequences
    rw [Text.caseForms_eq]
    decide +kernel
  have hshown : options.maxFragments = 1 := by
    rw [hoptions]
  have hoccurrences : Excerpt.occurrences ["rust".toList] (Text.foldChars page.body.toList) =
      [("rust".toList, 0), ("rust".toList, 6)] := by
    rw [hpage]
    decide +kernel
  obtain ⟨-, found, hfound, hhighlighted, hfragments⟩ :=
    @highlights_of_occurrences page .body page.body rfl options _ hlook
  have hterms : (["rust", ""].map String.toList).filter (· ≠ []) = ["rust".toList] := by
    decide
  rw [hterms] at hfound
  have hlisted := (Excerpt.areOccurrences_iff (by decide)).mp hfound
  rw [hoccurrences] at hlisted
  rw [hlisted, hshown] at hhighlighted hfragments
  have hhighlights : page.highlights options ["rust", ""] =
      [⟨.body, ["<mark>Rust</mark>..."], "Rust, RUST"⟩] := by
    rw [highlights, Excerpt.searchable_eq hlook, hterms, hpage, hoptions]
    decide +kernel
  refine ⟨page, options, _, found, hpage, hoptions, rfl, hfound, hlisted, ?_, hhighlights, ?_⟩
  · simpa using hhighlighted
  · obtain ⟨-, -, hlist⟩ := hfragments _ (hhighlights ▸ List.mem_cons_self) rfl
    rw [List.take_one, List.head?_cons, Option.toList_some, List.forall₂_cons] at hlist
    exact hlist.1

/-- If no term is longer than a fragment, a fragment shows the term it is made for, provided that
the letters of the term stand where it has been found.  They do, unless a character of the term or
of the text there is estranged. -/
theorem shows_of_occurrences {options : Options} {terms : List String}
    (hsize : ∀ term ∈ terms, term.length ≤ options.fragmentSize) {highlight : Highlight}
    (hmem : highlight ∈ document.highlights options terms)
    (htext : document.textOf? highlight.field = some text) :
    ∃ found, AreOccurrences (Excerpt.searchable terms) text.toList found ∧
      List.Forall₂ (fun (term, start) fragment =>
          let stands := (text.toList.drop start).take term.length
          (Text.SameLetters term stands → Shows options.marks term fragment) ∧
          (¬ Text.SameLetters term stands → ∃ c ∈ term ++ stands, Text.isEstranged c = true))
        (found.take options.maxFragments) highlight.fragments := by
  have hne := @Excerpt.ne_nil_of_mem_searchable terms
  have hfound : AreOccurrences (Excerpt.searchable terms) text.toList
      (Excerpt.occurrences (Excerpt.searchable terms) (Text.foldChars text.toList)) :=
    (Excerpt.areOccurrences_iff hne).mpr rfl
  have hhighlight := (mem_highlights_iff htext options terms highlight).mp ⟨hmem, rfl⟩
  refine ⟨_, hfound, Excerpt.forall₂_of_ofField hhighlight ?_⟩
  rintro ⟨term, start⟩ hoccurrence
  obtain ⟨hterm, hwithin, hfold⟩ := hfound.of_mem hne hoccurrence
  constructor
  · intro hletters
    obtain ⟨word, hword, rfl, -, -⟩ := Excerpt.mem_searchable_iff.mp hterm
    refine (Excerpt.isFragment_fragment (hne _ hterm) hwithin).shows ?_ hletters
    rw [String.length_toList]
    exact hsize word hword
  · intro hletters
    by_contra hplain
    simp only [not_exists, not_and, Bool.not_eq_true, List.forall_mem_append] at hplain
    exact hletters (Text.sameLetters_of_foldChars_eq hfold.symm hplain.1 hplain.2)

/-- The term `izmir` is short enough to be looked for. -/
theorem searchable_izmir : Excerpt.searchable ["izmir"] = ["izmir".toList] := by
  have hlook : ∀ term ∈ ["izmir"], AutomatonSize.canLookFor term.toList = true := by
    unfold AutomatonSize.canLookFor AutomatonSize.ofLetter AutomatonSize.formSequences
    rw [Text.caseForms_eq]
    decide +kernel
  rw [Excerpt.searchable_eq hlook]
  decide

/-- Of two fragments the second one shows the term; the first one is made for an estranged letter. -/
theorem shows_of_occurrences_second :
    ∃ page options highlight first second, page = Sample.page "p" "" "İzmir, IZMIR" ∧
      options = { Options.standard with fragmentSize := 5 } ∧
      highlight ∈ page.highlights options ["izmir"] ∧ highlight.fragments = [first, second] ∧
      Shows options.marks "izmir".toList second := by
  obtain ⟨page, hpage⟩ : ∃ page, page = Sample.page "p" "" "İzmir, IZMIR" := ⟨_, rfl⟩
  obtain ⟨options, hoptions⟩ : ∃ options,
      options = { Options.standard with fragmentSize := 5 } := ⟨_, rfl⟩
  have hbody : page.textOf? .body = some "İzmir, IZMIR" := by
    rw [hpage]
    rfl
  have hoccurrences : Excerpt.occurrences ["izmir".toList] (Text.foldChars "İzmir, IZMIR".toList) =
      [("izmir".toList, 0), ("izmir".toList, 7)] := by
    decide +kernel
  have hhighlighted : page.Highlighted options ["izmir"] .body := by
    rw [highlighted_iff_isSome hbody, Excerpt.ofField_isSome_iff, searchable_izmir, hoccurrences]
    · simp
    · rw [hoptions]
      decide
  obtain ⟨highlight, hmem, hfield⟩ := hhighlighted
  rw [← hfield] at hbody
  obtain ⟨found, hfound, hfragments⟩ := shows_of_occurrences
    (by rw [hoptions]; decide : ∀ term ∈ ["izmir"], term.length ≤ options.fragmentSize) hmem hbody
  rw [searchable_izmir] at hfound
  have hlisted := (Excerpt.areOccurrences_iff (by decide)).mp hfound
  have hshown : options.maxFragments = 3 := by
    rw [hoptions]
    rfl
  rw [hlisted, hoccurrences, hshown, List.take_of_length_le (by decide),
    List.forall₂_cons_left_iff] at hfragments
  obtain ⟨first, others, -, hothers, heq⟩ := hfragments
  rw [List.forall₂_cons_left_iff] at hothers
  obtain ⟨second, rest, ⟨hshows, -⟩, hrest, rfl⟩ := hothers
  rw [List.forall₂_nil_left_iff.mp hrest] at heq
  exact ⟨page, options, highlight, first, second, hpage, hoptions, hmem, heq,
    hshows (by decide +kernel)⟩

/-- The one fragment of a field, made for a term whose folded form stands there, holds no marks at
all. -/
theorem not_shows_dotted :
    ∃ page, page = Sample.page "p" "" "İzmir" ∧
      "izmir".length ≤ Options.standard.fragmentSize ∧
      page.highlights .standard ["izmir"] = [⟨.body, ["İzmir"], "İzmir"⟩] ∧
      ¬ Shows Options.standard.marks "izmir".toList "İzmir" := by
  refine ⟨_, rfl, by decide, ?_, ?_⟩
  · rw [highlights, searchable_izmir]
    decide +kernel
  · rintro ⟨occurrence, -, hinfix⟩
    have hmark : '<' ∈ "İzmir".toList := by
      apply hinfix.subset
      simp [Marks.around, Options.standard, Marks.standard]
    exact absurd hmark (by decide)

end Document
end TextSearch
