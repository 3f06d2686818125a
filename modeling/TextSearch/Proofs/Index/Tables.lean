import Mathlib.Data.List.Induction
import TextSearch.Index.Table

/-!
# Tables made from lists

Of two pairs with one key the later counts, so a list that is put behind another overlays it.

Main results:

- Theorem `Table.keys_ext`: tables with the same keys list them in the same order.
- Theorem `Table.ofList_entries`: listing a table and making a table of the list gives it back.
- Theorem `Table.find?_ofList_append`: a look-up finds what the overlay has, and else what is below.
- Theorem `Table.restrict_overlaid_overlay`: the part of an overlaid table that the overlay gives is
  the overlay.
- Theorem `Table.entries_restrict_overlaid_base`: the part of an overlaid table on the keys of the
  table below, pair by pair.
-/

namespace TextSearch
namespace Table

variable {κ α : Type} [Ord κ] [Std.LawfulEqOrd κ]

/-! ## Keys -/

omit [Std.LawfulEqOrd κ] in
theorem ascending_keys (t : Table κ α) : t.keys.Pairwise fun a b => compare a b = .lt := by
  rw [keys, List.pairwise_map]
  exact t.ascending

/-- No key is listed twice. -/
theorem nodup_keys (t : Table κ α) : t.keys.Nodup := by
  refine t.ascending_keys.imp ?_
  rintro a b hlt rfl
  simp at hlt

/-- Two tables with the same keys list them in the same order. -/
theorem keys_ext [Std.TransOrd κ] {s t : Table κ α} (h : ∀ k, k ∈ s.keys ↔ k ∈ t.keys) :
    s.keys = t.keys := by
  refine List.Perm.eq_of_pairwise ?_ s.ascending_keys t.ascending_keys
    ((List.perm_ext_iff_of_nodup s.nodup_keys t.nodup_keys).mpr h)
  intro a b _ _ hab hba
  have hself := Std.TransCmp.lt_trans hab hba
  simp at hself

/-- A key is listed exactly when the table contains it. -/
theorem mem_keys_iff {t : Table κ α} {k : κ} : k ∈ t.keys ↔ t.contains k = true := by
  simp only [keys, List.mem_map, Prod.exists, exists_and_right, exists_eq_right, contains,
    Option.isSome_iff_exists, find?_eq_some_iff]

/-- Values that are changed in their places are found in their changed form. -/
theorem findEntry_map (f : κ → α → α) (k : κ) (entries : List (κ × α)) :
    findEntry k (entries.map fun e => (e.1, f e.1 e.2)) = (findEntry k entries).map (f k) := by
  induction entries with
  | nil => rfl
  | cons pair rest ih =>
    rcases pair with ⟨k', v⟩
    by_cases hk : k = k' <;> simp [findEntry, hk, ih]

/-! ## Parts of tables -/

/-- The part of a table whose keys satisfy a condition. -/
def restrict (t : Table κ α) (p : κ → Bool) : Table κ α :=
  ⟨t.entries.filter fun e => p e.1, t.ascending.filter _⟩

/-- A restricted table finds what the table finds under the keys that are kept. -/
theorem find?_restrict (t : Table κ α) (p : κ → Bool) (k : κ) :
    (t.restrict p).find? k = if p k then t.find? k else none := by
  refine Option.ext fun v => ?_
  rw [find?_eq_some_iff, restrict, List.mem_filter, ← find?_eq_some_iff]
  by_cases hp : p k <;> simp [hp]

/-! ## Look-ups in tables made from lists -/

variable [Std.TransOrd κ] [DecidableEq κ]

/-- Pairs that are put into a table one after the other hide what the table had. -/
theorem find?_foldl_insert (t : Table κ α) (pairs : List (κ × α)) (k : κ) :
    (pairs.foldl (fun t e => t.insert e.1 e.2) t).find? k =
      ((ofList pairs).find? k).or (t.find? k) := by
  induction pairs using List.reverseRecOn with
  | nil => rfl
  | append_singleton pairs pair ih =>
    simp only [ofList, List.foldl_append, List.foldl_cons, List.foldl_nil, find?_insert] at ih ⊢
    by_cases h : k = pair.1
    · simp only [if_pos h, Option.some_or]
    · simp only [if_neg h]
      exact ih

/-- A list behind another hides what the other says of its keys. -/
theorem find?_ofList_append (xs ys : List (κ × α)) (k : κ) :
    (ofList (xs ++ ys)).find? k = ((ofList ys).find? k).or ((ofList xs).find? k) := by
  rw [ofList, List.foldl_append]
  exact find?_foldl_insert _ ys k

/-- In a list with ascending keys there is one pair for each key, so it does not matter whether the
first or the last one counts. -/
theorem find?_ofList {pairs : List (κ × α)}
    (h : pairs.Pairwise fun a b => compare a.1 b.1 = .lt) (k : κ) :
    (ofList pairs).find? k = findEntry k pairs := by
  induction pairs with
  | nil => rfl
  | cons pair rest ih =>
    rcases List.pairwise_cons.mp h with ⟨hhead, hrest⟩
    have hfirst : (ofList [pair]).find? k = if k = pair.1 then some pair.2 else none :=
      find?_insert empty pair.1 pair.2 k
    rw [← List.singleton_append, find?_ofList_append, ih hrest, hfirst, List.singleton_append,
      findEntry]
    by_cases hk : k = pair.1
    · subst hk
      have hnone : findEntry pair.1 rest = none := by
        rw [Option.eq_none_iff_forall_ne_some]
        intro v hv
        have hlt := hhead _ ((findEntry_eq_some_iff hrest).mp hv)
        simp at hlt
      simp [hnone]
    · simp [hk]

/-- Listing a table and making a table of the list gives it back. -/
@[simp]
theorem ofList_entries (t : Table κ α) : ofList t.entries = t :=
  ext_find? (find?_ofList t.ascending)

/-! ## Overlays -/

/-- An overlaid table has what the overlay says of a key, and else what the table below says. -/
theorem find?_overlaid (base : Table κ α) (overlay : List (κ × α)) (k : κ) :
    (ofList (base.entries ++ overlay)).find? k =
      ((ofList overlay).find? k).or (base.find? k) := by
  rw [find?_ofList_append, ofList_entries]

/-- An entry whose key the overlay leaves alone comes from the base. -/
theorem mem_base_of_mem_overlaid {base : Table κ α} {overlay : List (κ × α)} {e : κ × α}
    (h : e ∈ (ofList (base.entries ++ overlay)).entries)
    (hnot : (ofList overlay).contains e.1 = false) : e ∈ base.entries := by
  rcases e with ⟨k, v⟩
  rw [contains, Option.isSome_eq_false_iff, Option.isNone_iff_eq_none] at hnot
  rw [← find?_eq_some_iff, find?_overlaid, hnot, Option.none_or] at h
  exact (find?_eq_some_iff base k v).mp h

/-- The part of an overlaid table that the overlay gives is the overlay. -/
theorem restrict_overlaid_overlay (base : Table κ α) (overlay : List (κ × α)) :
    (ofList (base.entries ++ overlay)).restrict (ofList overlay).contains = ofList overlay := by
  refine ext_find? fun k => ?_
  rw [find?_restrict, find?_overlaid, contains]
  cases (ofList overlay).find? k <;> rfl

/-- The part of an overlaid table on the keys of the table below: these keys keep their places, and
where the overlay has a value, it is the value. -/
theorem entries_restrict_overlaid_base (base : Table κ α) (overlay : List (κ × α)) :
    ((ofList (base.entries ++ overlay)).restrict base.contains).entries =
      base.entries.map fun e => (e.1, ((ofList overlay).find? e.1).getD e.2) := by
  have hascending : List.Pairwise (fun a b => compare a.1 b.1 = .lt)
      (base.entries.map fun e => (e.1, ((ofList overlay).find? e.1).getD e.2)) :=
    List.pairwise_map.mpr base.ascending
  have heq : (ofList (base.entries ++ overlay)).restrict base.contains = ⟨_, hascending⟩ := by
    refine ext_find? fun k => ?_
    have hmapped := findEntry_map (fun k v => ((ofList overlay).find? k).getD v) k base.entries
    rw [find?_restrict, find?_overlaid, contains]
    refine Eq.trans ?_ hmapped.symm
    rw [← find?]
    cases base.find? k <;> cases (ofList overlay).find? k <;> rfl
  rw [heq]

end Table
end TextSearch
