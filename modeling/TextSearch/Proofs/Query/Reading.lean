import TextSearch.Proofs.Query.Canonical
import TextSearch.Proofs.Query.Deriving
import TextSearch.Proofs.Query.Trimming

/-!
# What is read

What holds of every text that is read: its tree can be written, the height that goes along with the
tree is its height, and no tree is higher than the limit.  A text that cannot be read cannot be read
without the blanks around it either.

Main results:

- Theorem `legible_of_readText`: every tree that is read can be written, and its recorded height is
  its height.
- Theorem `failed_trim`: blanks do not decide whether a text can be read.
- Theorem `exists_readText_of_not_fatal`: a query whose faults are not fatal has been read.
- Theorem `height_le_of_readText`: no tree that is read is higher than the limit.
-/

namespace TextSearch
namespace Reader

/-! ## Legible trees -/

/-- Every part that is read from spelled symbols is legible and carries its height. -/
theorem simulation_legible :
    Simulation (fun a b => a = b ∧ a.Spelled)
      (fun a b => a = b ∧ a.tree.Legible ∧ a.height = a.tree.height) where
  sameKind := by
    rintro a b ⟨rfl, -⟩
    exact Symbol.SameKind.refl a
  leaf := by
    rintro a b value value' ⟨rfl, hspelled⟩ hleaf hleaf'
    rw [hleaf, Option.some.injEq] at hleaf'
    exact ⟨by rw [hleaf'], Query.Legible.leaf hspelled hleaf, (Query.height_of_leaf hleaf).symm⟩
  field := by
    rintro name name' a b value value' ⟨hname, hspelledName⟩ ⟨rfl, hspelled⟩ hleaf hleaf'
    rw [Symbol.field.injEq] at hname
    rw [hleaf, Option.some.injEq] at hleaf'
    refine ⟨by rw [hname, hleaf'], Query.Legible.field hspelledName hspelled hleaf, ?_⟩
    rw [Query.height, Query.height_of_leaf hleaf]
  not := by
    rintro a b ⟨rfl, hlegible, hheight⟩
    refine ⟨rfl, Query.Legible.not hlegible, ?_⟩
    rw [Query.height, hheight]
  join := by
    rintro a b a' b' connective ⟨rfl, hlegible, hheight⟩ ⟨rfl, hlegible', hheight'⟩
    refine ⟨rfl, Query.Legible.join connective hlegible hlegible', ?_⟩
    rw [Query.height_join, hheight, hheight']
  height := by
    rintro a b ⟨rfl, -⟩
    rfl
  implied := by
    rintro a b ⟨rfl, -⟩
    rfl

/-- Every tree that is read can be written, and its recorded height is its height. -/
theorem legible_of_readText {raw : String} {part : Part} {rest : List Token}
    {noted : List SyntaxError} (h : readText raw = .done part rest noted) :
    part.tree.Legible ∧ part.height = part.tree.height := by
  have hspelled : List.Forall₂ (fun a b => a = b ∧ a.Spelled)
      (Symbol.scan raw.toList) (Symbol.scan raw.toList) := by
    rw [List.forall₂_same]
    intro symbol hsymbol
    exact ⟨rfl, Symbol.spelled_of_mem_scan hsymbol⟩
  have hrelated := simulation_legible.readText hspelled
  rw [h] at hrelated
  cases hrelated with
  | done _ _ hpart hrest => exact hpart.2

/-! ## Kinds of symbols -/

/-- Only the kinds of symbols decide whether a text can be read, and how high what is read is. -/
theorem simulation_sameKind :
    Simulation Symbol.SameKind (fun a b => a.height = b.height ∧
      Connective.implied a.tree = Connective.implied b.tree) where
  sameKind := by
    intro a b h
    exact h
  leaf := by
    intro a b value value' _ hleaf hleaf'
    refine ⟨rfl, ?_⟩
    rw [implied_of_leaf hleaf, implied_of_leaf hleaf']
  field := by
    intro name name' a b value value' _ _ _ _
    exact ⟨rfl, rfl⟩
  not := by
    rintro a b ⟨hheight, -⟩
    refine ⟨?_, rfl⟩
    rw [hheight]
  join := by
    rintro a b a' b' connective ⟨hheight, -⟩ ⟨hheight', -⟩
    refine ⟨?_, ?_⟩
    · rw [hheight, hheight']
    · cases connective <;> rfl
  height := by
    intro a b h
    exact h.1
  implied := by
    intro a b h
    exact h.2

/-- A text that cannot be read cannot be read without the blanks around it either. -/
theorem failed_trim {raw : String} {fault : SyntaxError} {noted : List SyntaxError}
    (h : readText raw = .failed fault noted) :
    fault.isFatal = true ∧
      ∃ fault' noted', readText (Text.trim raw) = .failed fault' noted' := by
  have hrelated := simulation_sameKind.readText (Symbol.sameKind_scan_trim raw)
  rw [h] at hrelated
  generalize readText (Text.trim raw) = step at hrelated
  cases hrelated with
  | failed _ _ hfault hfault' => exact ⟨hfault, _, _, rfl⟩

/-- A text that is read is read from all of its tokens. -/
theorem exists_query_of_readText {raw : String} {part : Part} {rest : List Token}
    {noted : List SyntaxError} (h : readText raw = .done part rest noted) :
    ∃ last, query last (tokens raw) [] = .done part rest noted := by
  rw [readText] at h
  cases hlast : (tokens raw).getLast? with
  | none =>
    rw [hlast] at h
    contradiction
  | some last =>
    rw [hlast] at h
    exact ⟨last.position, h⟩

/-- A query that only has parentheses without partners has been read to its end. -/
theorem exists_readText_of_not_fatal {raw : String}
    (h : ∀ fault ∈ (parse raw).errors, fault.isFatal = false) :
    ∃ part rest noted, readText raw = .done part rest noted ∧
      parse raw = ⟨part.tree, noted.reverse⟩ := by
  rw [parse_eq] at h ⊢
  cases hread : readText raw with
  | failed fault noted =>
    rw [hread] at h
    have hfatal := h fault (by simp)
    rw [(failed_trim hread).1] at hfatal
    contradiction
  | done part rest noted => exact ⟨part, rest, noted, rfl, rfl⟩

/-! ## Heights -/

/-- A finished chain is within the height limit. -/
theorem height_le_of_finish {chain : Chain} {part : Part} {tokens rest : List Token}
    {noted noted' : List SyntaxError} (h : finish chain tokens noted = .done part rest noted') :
    part.height ≤ heightLimit := by
  rw [finish, Chain.collapse] at h
  cases hbalanced : balanced (chain.connective.getD .or) chain.run.reverse with
  | none =>
    rw [hbalanced] at h
    contradiction
  | some whole =>
    rw [hbalanced] at h
    dsimp only at h
    by_cases hhigh : whole.height > heightLimit
    · rw [if_pos hhigh] at h
      contradiction
    · rw [if_neg hhigh, Step.done.injEq] at h
      rw [← h.1]
      exact Nat.le_of_not_lt hhigh

/-- No tree that is read is higher than the limit. -/
theorem height_le_of_readText {raw : String} {part : Part} {rest : List Token}
    {noted : List SyntaxError} (h : readText raw = .done part rest noted) :
    part.height ≤ heightLimit := by
  obtain ⟨last, h⟩ := exists_query_of_readText h
  rw [query] at h
  obtain ⟨first, after, noted₁, -, h⟩ := Step.exists_of_bind h
  obtain ⟨whole, -, hend⟩ := exists_of_queryFrom (fun _ _ _ => True)
    (fun _ => trivial) (fun _ _ _ => trivial) trivial (Nat.le_refl _) h
  exact height_le_of_finish hend

end Reader
end TextSearch
