import Exemplar.Table
import Mathlib.Data.Finset.Card
import Mathlib.Data.List.Nodup

/-!
Merged tables. The keys of a merged table are those of the first one and then, in their own order,
those that only the second one has. A table is determined by its keys in their order and by its
look-ups, so merging is associative and an empty table is neutral on both sides.
-/

set_option autoImplicit false
set_option relaxedAutoImplicit false

namespace Exemplar.Table

variable {κ ν : Type} [DecidableEq κ]

theorem keys_insert (table : Table κ ν) (key : κ) (value : ν) :
    (table.insert key value).keys =
      if key ∈ table.keys then table.keys else table.keys ++ [key] :=
  map_fst_store key value table.entries

/-! ### Equal tables -/

theorem eq_of_lookup_eq {first second : List (κ × ν)} (hdistinct : (first.map Prod.fst).Nodup)
    (hkeys : first.map Prod.fst = second.map Prod.fst)
    (hlookup : ∀ key, lookup key first = lookup key second) : first = second := by
  induction first generalizing second with
  | nil => exact (List.map_eq_nil_iff.1 hkeys.symm).symm
  | cons entry entries ih =>
    obtain ⟨other, others, rfl⟩ : ∃ other others, second = other :: others :=
      List.exists_cons_of_ne_nil fun h ↦ by simp [h] at hkeys
    obtain ⟨hkey, hkeysRest⟩ := List.cons.inj hkeys
    obtain ⟨hnew, hdistinctRest⟩ := List.nodup_cons.1 hdistinct
    have hvalue : entry.2 = other.2 := by
      have h := hlookup entry.1
      rw [lookup, if_pos rfl, lookup, if_pos hkey.symm] at h
      exact Option.some.inj h
    have hlookupRest : ∀ key, lookup key entries = lookup key others := by
      intro key
      by_cases hfirst : entry.1 = key
      · subst hfirst
        rw [(lookup_eq_none_iff _ entries).2 hnew,
          (lookup_eq_none_iff _ others).2 (hkeysRest ▸ hnew)]
      · have h := hlookup key
        rwa [lookup, if_neg hfirst, lookup, if_neg (hkey ▸ hfirst)] at h
    rw [ih hdistinctRest hkeysRest hlookupRest, Prod.ext hkey hvalue]

/-- Tables with the same keys in the same order and the same look-ups are equal. -/
theorem ext_of_keys {first second : Table κ ν} (hkeys : first.keys = second.keys)
    (hget : ∀ key, first.get? key = second.get? key) : first = second := by
  obtain ⟨entries, hdistinct⟩ := first
  obtain ⟨others, _⟩ := second
  congr
  exact eq_of_lookup_eq hdistinct hkeys hget

/-! ### Merging -/

/-- The keys of a merged table are those of the first table and then the new ones of the second. -/
theorem keys_merge (first second : Table κ ν) :
    (first.merge second).keys = first.keys ++ second.keys.filter (· ∉ first.keys) := by
  obtain ⟨entries, hdistinct⟩ := second
  change (entries.foldl (fun merged entry ↦ merged.insert entry.1 entry.2) first).keys =
    first.keys ++ (entries.map Prod.fst).filter (· ∉ first.keys)
  induction entries generalizing first with
  | nil => simp
  | cons entry entries ih =>
    obtain ⟨hnew, hrest⟩ := List.nodup_cons.1 hdistinct
    rw [List.foldl_cons, ih _ hrest, keys_insert, List.map_cons]
    by_cases hkey : entry.1 ∈ first.keys
    · rw [if_pos hkey, List.filter_cons_of_neg (by simpa using hkey)]
    · rw [if_neg hkey, List.filter_cons_of_pos (by simpa using hkey), List.append_assoc,
        List.singleton_append]
      congr 2
      -- The key that was just put in is not met again, since keys are listed once.
      refine List.filter_congr fun key hmem ↦ ?_
      have hne : key ≠ entry.1 := fun h ↦ hnew (h ▸ hmem)
      simp [hne]

theorem merge_assoc (first second third : Table κ ν) :
    (first.merge second).merge third = first.merge (second.merge third) := by
  refine ext_of_keys ?_ fun key ↦ ?_
  · rw [keys_merge, keys_merge, keys_merge, keys_merge, List.filter_append, List.filter_filter,
      List.append_assoc]
    congr 2
    refine List.filter_congr fun key _ ↦ ?_
    by_cases hfirst : key ∈ first.keys <;> by_cases hsecond : key ∈ second.keys <;>
      simp [hfirst, hsecond]
  · rw [get?_merge, get?_merge, get?_merge, get?_merge, Option.or_assoc]

theorem empty_merge (table : Table κ ν) : empty.merge table = table := by
  refine ext_of_keys ?_ fun key ↦ ?_
  · rw [keys_merge]
    exact List.filter_eq_self.2 fun key _ ↦ by simp [keys, empty]
  · rw [get?_merge, get?_empty, Option.or_none]

theorem merge_empty (table : Table κ ν) : table.merge empty = table :=
  rfl

theorem size_eq_card_keys (table : Table κ ν) : table.size = table.keys.toFinset.card := by
  have hcard := List.toFinset_card_of_nodup table.distinct
  rw [List.length_map] at hcard
  exact hcard.symm

/-- A merged table has as many entries as there are keys in one table or the other. -/
theorem size_merge (first second : Table κ ν) :
    (first.merge second).size = (first.keys.toFinset ∪ second.keys.toFinset).card := by
  rw [size_eq_card_keys, keys_merge]
  congr 1
  ext key
  by_cases hkey : key ∈ first.keys <;> simp [hkey]

end Exemplar.Table
