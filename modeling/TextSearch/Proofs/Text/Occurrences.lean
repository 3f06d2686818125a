import Mathlib.Data.List.Forall2
import Mathlib.Data.List.Infix
import Mathlib.Data.List.Sort
import TextSearch.Text.Terms

/-!
# Where a text occurs

The occurrences that a scan lists and the bare question whether there is one are two functions of
the model.  Both are told here by pieces of a list, so that they can be compared; and the list that
a scan makes is told by the places at which the pattern stands.

Main results:

- Theorem `beginsWith_iff_prefix`: a text begins with a pattern.
- Theorem `contains_iff_infix`: a text has a pattern as a piece.
- Theorem `leftmost_iff`: the scan makes the one list of leftmost occurrences that do not overlap.
- Theorem `starts_ne_nil_iff`: the scan lists an occurrence exactly when there is one.
- Theorem `starts_leftmost`: what the scan lists, told by places in the text.
-/

namespace TextSearch
namespace Text

/-- A text begins with a pattern exactly when the pattern is a prefix of it. -/
theorem beginsWith_iff_prefix {pattern text : List Char} :
    beginsWith (· == ·) pattern text = true ↔ pattern <+: text := by
  induction pattern generalizing text with
  | nil => simp
  | cons p pattern ih =>
    cases text with
    | nil => simp [beginsWith]
    | cons c text => rw [beginsWith, Bool.and_eq_true, beq_iff_eq, ih, List.cons_prefix_cons]

/-- A text contains a needle exactly when the needle is an infix of it. -/
theorem contains_iff_infix {needle text : List Char} :
    contains needle text = true ↔ needle <:+: text := by
  induction text with
  | nil => rw [contains, List.isEmpty_iff, List.infix_nil]
  | cons c text ih =>
    rw [contains, Bool.or_eq_true, beginsWith_iff_prefix, ih, List.infix_cons_iff]

/-! ## Leftmost occurrences -/

/-- The pattern stands at a place of the text, characters being compared by `same`. -/
def StandsAt (same : Char → Char → Bool) (pattern text : List Char) (place : Nat) : Prop :=
  List.Forall₂ (fun p c => same p c = true) pattern ((text.drop place).take pattern.length)

/-- The occurrences that are found from a place on by going from left to right and continuing behind
each one found. -/
structure LeftmostFrom (same : Char → Char → Bool) (needle text : List Char) (place : Nat)
    (starts : List Nat) : Prop where
  behind : ∀ start ∈ starts, place ≤ start
  stands : ∀ start ∈ starts, StandsAt same needle text start
  /-- They are listed from left to right and share no character. -/
  apart : starts.Pairwise fun first second => first + needle.length ≤ second
  /-- Every occurrence starts within a listed one. -/
  covers : ∀ other, place ≤ other → StandsAt same needle text other →
    ∃ start ∈ starts, start ≤ other ∧ other < start + needle.length

/-- The leftmost occurrences in the whole text that do not overlap. -/
abbrev Leftmost (same : Char → Char → Bool) (needle text : List Char) (starts : List Nat) : Prop :=
  LeftmostFrom same needle text 0 starts

variable {same : Char → Char → Bool} {needle text : List Char}

/-- A text begins with the needles that stand at its start. -/
theorem beginsWith_iff_standsAt : beginsWith same needle text = true ↔
    StandsAt same needle text 0 := by
  rw [StandsAt, List.drop_zero]
  induction needle generalizing text with
  | nil => simp
  | cons p needle ih =>
    cases text with
    | nil => simp [beginsWith]
    | cons c text => simp [beginsWith, ih]

/-- Characters that are compared for equality stand where they are a piece of the text. -/
theorem standsAt_beq_iff {place : Nat} :
    StandsAt (· == ·) needle text place ↔ (text.drop place).take needle.length = needle := by
  simp only [StandsAt, beq_iff_eq, List.forall₂_eq_eq_eq]
  exact eq_comm

/-- A needle stands somewhere exactly when it is an infix. -/
theorem exists_standsAt_iff_infix :
    (∃ place, StandsAt (· == ·) needle text place) ↔ needle <:+: text := by
  simp only [standsAt_beq_iff]
  constructor
  · rintro ⟨place, hpiece⟩
    rw [← hpiece]
    exact (List.take_prefix _ _).isInfix.trans (List.drop_suffix _ _).isInfix
  · rintro ⟨before, after, rfl⟩
    refine ⟨before.length, ?_⟩
    rw [List.append_assoc, List.drop_left, List.take_left]

/-- Behind its first character, a text has the needle one place earlier. -/
theorem standsAt_cons_succ {c : Char} {place : Nat} :
    StandsAt same needle (c :: text) (place + 1) ↔ StandsAt same needle text place :=
  Iff.rfl

/-- An occurrence lies within the text. -/
theorem StandsAt.add_le_length {place : Nat} (h : StandsAt same needle text place)
    (hne : needle ≠ []) : place + needle.length ≤ text.length := by
  have hlength := h.length_eq
  rw [List.length_take, List.length_drop] at hlength
  have hpos := List.length_pos_of_ne_nil hne
  omega

theorem not_standsAt_nil {place : Nat} (hne : needle ≠ []) : ¬ StandsAt same needle [] place := by
  intro hstands
  have hlength := hstands.add_le_length hne
  have hpos := List.length_pos_of_ne_nil hne
  rw [List.length_nil] at hlength
  omega

namespace LeftmostFrom

variable {place : Nat} {starts : List Nat}

theorem nil (hne : needle ≠ []) : LeftmostFrom same needle [] place [] where
  behind := by simp
  stands := by simp
  apart := List.Pairwise.nil
  covers _ _ h := absurd h (not_standsAt_nil hne)

/-- A character in front of the text that belongs to no occurrence moves all of them. -/
theorem skip {c : Char} (h : LeftmostFrom same needle text place starts) :
    LeftmostFrom same needle (c :: text) (place + 1) (starts.map (· + 1)) where
  behind := by
    simpa using h.behind
  stands := by
    simpa [standsAt_cons_succ] using h.stands
  apart := by
    rw [List.pairwise_map]
    exact h.apart.imp fun hle => by omega
  covers other hother hstands := by
    obtain ⟨before, rfl⟩ := Nat.exists_eq_add_of_le' (Nat.one_le_of_lt hother)
    obtain ⟨start, hmem, hle, hlt⟩ :=
      h.covers before (Nat.le_of_succ_le_succ hother) (standsAt_cons_succ.mp hstands)
    exact ⟨start + 1, List.mem_map_of_mem hmem, by omega, by omega⟩

/-- If no occurrence starts at a place, those from this place on are those behind it. -/
theorem of_not_standsAt (h : LeftmostFrom same needle text (place + 1) starts)
    (hnot : ¬ StandsAt same needle text place) :
    LeftmostFrom same needle text place starts where
  behind start hmem := Nat.le_of_succ_le (h.behind start hmem)
  stands := h.stands
  apart := h.apart
  covers other hother hstands := by
    have hne : other ≠ place := fun heq => hnot (heq ▸ hstands)
    exact h.covers other (by omega) hstands

/-- If an occurrence starts at a place, those from this place on are this one and those behind its
end. -/
theorem cons (h : LeftmostFrom same needle text (place + needle.length) starts)
    (hstands : StandsAt same needle text place) :
    LeftmostFrom same needle text place (place :: starts) where
  behind := List.forall_mem_cons.mpr ⟨Nat.le_refl _, fun start hmem =>
    Nat.le_of_add_right_le (h.behind start hmem)⟩
  stands := List.forall_mem_cons.mpr ⟨hstands, h.stands⟩
  apart := List.pairwise_cons.mpr ⟨h.behind, h.apart⟩
  covers other hother hother' := by
    by_cases hwithin : other < place + needle.length
    · exact ⟨place, List.mem_cons_self, hother, hwithin⟩
    · obtain ⟨start, hmem, hbounds⟩ := h.covers other (Nat.le_of_not_lt hwithin) hother'
      exact ⟨start, List.mem_cons_of_mem _ hmem, hbounds⟩

/-- Of two occurrences in the list, the one that starts first ends before the other. -/
theorem add_length_le (h : LeftmostFrom same needle text place starts) {first second : Nat}
    (hfirst : first ∈ starts) (hsecond : second ∈ starts) (hlt : first < second) :
    first + needle.length ≤ second := by
  obtain ⟨i, hi, rfl⟩ := List.getElem_of_mem hfirst
  obtain ⟨j, hj, rfl⟩ := List.getElem_of_mem hsecond
  rcases Nat.lt_trichotomy i j with hbefore | rfl | hafter
  · exact List.pairwise_iff_getElem.mp h.apart i j hi hj hbefore
  · omega
  · have hle := List.pairwise_iff_getElem.mp h.apart j i hj hi hafter
    omega

/-- What one list of leftmost occurrences holds, another one holds too. -/
theorem mem_of_mem {others : List Nat} (h : LeftmostFrom same needle text place starts)
    (hothers : LeftmostFrom same needle text place others) {start : Nat} (hmem : start ∈ starts) :
    start ∈ others := by
  induction start using Nat.strong_induction_on generalizing starts others with
  | _ start ih =>
    obtain ⟨other, hother, hle, hlt⟩ :=
      hothers.covers start (h.behind start hmem) (h.stands start hmem)
    rcases Nat.eq_or_lt_of_le hle with rfl | hbefore
    · exact hother
    · -- The other one is listed on both sides, but it overlaps the start.
      have hagain := ih other hbefore hothers h hother
      have hapart := h.add_length_le hagain hmem hbefore
      omega

/-- There is only one list of leftmost occurrences. -/
theorem unique {others : List Nat} (hne : needle ≠ [])
    (h : LeftmostFrom same needle text place starts)
    (hothers : LeftmostFrom same needle text place others) : starts = others := by
  have hpos := List.length_pos_of_ne_nil hne
  have hascending : ∀ {found : List Nat}, LeftmostFrom same needle text place found →
      found.Pairwise (· < ·) :=
    fun hfound => hfound.apart.imp fun hle => by omega
  exact (hascending h).eq_of_mem_iff (hascending hothers)
    fun start => ⟨h.mem_of_mem hothers, hothers.mem_of_mem h⟩

end LeftmostFrom

/-- A scan lists the leftmost occurrences behind the characters that are taken, counted from its
offset, after what has been found. -/
theorem exists_leftmostFrom_startsFrom (hne : needle ≠ []) (offset busy : Nat)
    (found : List Nat) :
    ∃ starts, LeftmostFrom same needle text busy starts ∧
      startsFrom same needle offset busy found text =
        found.reverse ++ starts.map (offset + ·) := by
  induction text generalizing offset busy found with
  | nil => exact ⟨[], .nil hne, by simp [startsFrom]⟩
  | cons c text ih =>
    -- What is found behind the first character is found one place further on.
    have hnext : ∀ busy found, ∃ starts, LeftmostFrom same needle (c :: text) (busy + 1) starts ∧
        startsFrom same needle (offset + 1) busy found text =
          found.reverse ++ starts.map (offset + ·) := by
      intro busy found
      obtain ⟨starts, hstarts, heq⟩ := ih (offset + 1) busy found
      refine ⟨starts.map (· + 1), hstarts.skip, ?_⟩
      rw [heq, List.map_map]
      congr 2
      funext start
      simp only [Function.comp_apply]
      omega
    cases busy with
    | succ busy => exact hnext busy found
    | zero =>
      rw [startsFrom]
      by_cases hbegins : beginsWith same needle (c :: text) = true
      · obtain ⟨starts, hstarts, heq⟩ := hnext (needle.length - 1) (offset :: found)
        have hpos := List.length_pos_of_ne_nil hne
        rw [Nat.sub_add_cancel hpos, ← Nat.zero_add needle.length] at hstarts
        refine ⟨0 :: starts, hstarts.cons (beginsWith_iff_standsAt.mp hbegins), ?_⟩
        rw [if_pos hbegins, heq, List.reverse_cons, List.append_assoc]
        rfl
      · obtain ⟨starts, hstarts, heq⟩ := hnext 0 found
        refine ⟨starts, hstarts.of_not_standsAt (mt beginsWith_iff_standsAt.mpr hbegins), ?_⟩
        rw [if_neg hbegins, heq]

/-- The scan makes the one list of leftmost occurrences that do not overlap. -/
theorem leftmost_iff (hne : needle ≠ []) {found : List Nat} :
    Leftmost same needle text found ↔ found = starts same needle text := by
  obtain ⟨listed, hlisted, heq⟩ := @exists_leftmostFrom_startsFrom same needle text hne 0 0 []
  have hstarts : starts same needle text = listed := by
    rw [starts, if_neg (by simpa using hne), heq]
    simp
  rw [hstarts]
  exact ⟨fun h => h.unique hne hlisted, fun h => h ▸ hlisted⟩

/-- A scan for a pattern that is not empty lists an occurrence exactly when there is one. -/
theorem starts_ne_nil_iff (hne : needle ≠ []) :
    starts (· == ·) needle text ≠ [] ↔ needle <:+: text := by
  have hleftmost : Leftmost (· == ·) needle text (starts (· == ·) needle text) :=
    (leftmost_iff hne).mpr rfl
  rw [← exists_standsAt_iff_infix]
  constructor
  · intro hsome
    obtain ⟨start, hmem⟩ := List.exists_mem_of_ne_nil _ hsome
    exact ⟨start, hleftmost.stands start hmem⟩
  · rintro ⟨place, hstands⟩
    obtain ⟨start, hmem, -⟩ := hleftmost.covers place (Nat.zero_le _) hstands
    exact List.ne_nil_of_mem hmem

/-- The scan lists occurrences within the text, from left to right and apart by at least the length
of the pattern.  Every occurrence overlaps a listed one that does not start behind it, and there is
no other list of this kind. -/
theorem starts_leftmost (hne : needle ≠ []) :
    let found := starts (· == ·) needle text
    found.Pairwise (· < ·) ∧
      found.IsChain (fun first second => first + needle.length ≤ second) ∧
      (∀ start ∈ found, start + needle.length ≤ text.length ∧
        (text.drop start).take needle.length = needle) ∧
      (∀ place, (text.drop place).take needle.length = needle →
        ∃ start ∈ found, start ≤ place ∧ place < start + needle.length) ∧
      ∀ others, Leftmost (· == ·) needle text others → others = found := by
  intro found
  have hfound : Leftmost (· == ·) needle text found := (leftmost_iff hne).mpr rfl
  have hpos := List.length_pos_of_ne_nil hne
  refine ⟨hfound.apart.imp fun hle => by omega, hfound.apart.isChain, ?_, ?_, ?_⟩
  · intro start hstart
    have hstands := hfound.stands start hstart
    exact ⟨hstands.add_le_length hne, standsAt_beq_iff.mp hstands⟩
  · intro place hplace
    exact hfound.covers place (Nat.zero_le _) (standsAt_beq_iff.mpr hplace)
  · intro others hothers
    exact (leftmost_iff hne).mp hothers

/-- A pattern that overlaps itself, at both ends of the text: the occurrence at 2 is not listed, but
overlaps the one at 0. -/
theorem starts_leftmost_overlapping :
    "aba".toList ≠ [] ∧ starts (· == ·) "aba".toList "ababab aba".toList = [0, 7] ∧
      ∃ start ∈ starts (· == ·) "aba".toList "ababab aba".toList, start ≤ 2 ∧ 2 < start + 3 := by
  have hne : "aba".toList ≠ [] := by decide
  obtain ⟨-, -, -, hcovers, -⟩ := @starts_leftmost _ "ababab aba".toList hne
  exact ⟨hne, by decide, hcovers 2 (by decide)⟩

end Text
end TextSearch
