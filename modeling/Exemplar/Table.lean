/-!
A finite table from keys to values, listed in the order in which keys were first inserted. No key
is listed twice, so a table is determined by its look-ups up to the order of its entries. The
lemmas give the look-up after each operation.
-/

set_option autoImplicit false
set_option relaxedAutoImplicit false

namespace Exemplar

/-- A finite table: entries with pairwise different keys. -/
structure Table (κ ν : Type) where
  entries : List (κ × ν)
  distinct : (entries.map Prod.fst).Nodup

namespace Table

variable {κ ν : Type}

/-- The table without entries. -/
def empty : Table κ ν :=
  ⟨[], List.nodup_nil⟩

/-- The keys, each once, in the order of the entries. -/
def keys (table : Table κ ν) : List κ :=
  table.entries.map Prod.fst

/-- The number of entries. -/
def size (table : Table κ ν) : Nat :=
  table.entries.length

/-- Whether there are no entries. -/
def isEmpty (table : Table κ ν) : Bool :=
  table.entries.isEmpty

variable [DecidableEq κ]

/-- The value listed for a key. -/
def lookup (key : κ) : List (κ × ν) → Option ν
  | [] => none
  | entry :: entries => if entry.1 = key then some entry.2 else lookup key entries

/-- The entries with the value of a key set: in place if the key is listed, at the end otherwise. -/
def store (key : κ) (value : ν) : List (κ × ν) → List (κ × ν)
  | [] => [(key, value)]
  | entry :: entries =>
    if entry.1 = key then (key, value) :: entries else entry :: store key value entries

theorem map_fst_store (key : κ) (value : ν) (entries : List (κ × ν)) :
    (store key value entries).map Prod.fst =
      if key ∈ entries.map Prod.fst then entries.map Prod.fst
      else entries.map Prod.fst ++ [key] := by
  induction entries with
  | nil => rfl
  | cons entry entries ih =>
    by_cases hkey : entry.1 = key
    · simp [store, hkey]
    · have hkey' : ¬key = entry.1 := fun h ↦ hkey h.symm
      by_cases hmem : key ∈ entries.map Prod.fst
      · rw [if_pos hmem] at ih
        rw [if_pos (by simp [hmem]), store, if_neg hkey, List.map_cons, ih, List.map_cons]
      · rw [if_neg hmem] at ih
        rw [if_neg (by simp only [List.map_cons, List.mem_cons, not_or]; exact ⟨hkey', hmem⟩),
          store, if_neg hkey, List.map_cons, ih, List.map_cons, List.cons_append]

theorem lookup_store (key other : κ) (value : ν) (entries : List (κ × ν)) :
    lookup other (store key value entries) =
      if key = other then some value else lookup other entries := by
  induction entries with
  | nil => rfl
  | cons entry entries ih =>
    by_cases hkey : entry.1 = key
    · by_cases hother : key = other
      · simp [store, lookup, hkey, hother]
      · simp [store, lookup, hkey, hother]
    · by_cases hentry : entry.1 = other
      · have hne : ¬key = other := fun h ↦ hkey (hentry.trans h.symm)
        rw [store, if_neg hkey, lookup, if_pos hentry, if_neg hne, lookup, if_pos hentry]
      · simp [store, lookup, hkey, hentry, ih]

theorem lookup_eq_none_iff (key : κ) (entries : List (κ × ν)) :
    lookup key entries = none ↔ key ∉ entries.map Prod.fst := by
  induction entries with
  | nil => simp [lookup]
  | cons entry entries ih =>
    by_cases hkey : entry.1 = key
    · simp [lookup, hkey]
    · have hkey' : ¬key = entry.1 := fun h ↦ hkey h.symm
      simp only [lookup, hkey, if_false, ih, List.map_cons, List.mem_cons, hkey', false_or]

/-- The value of a key. -/
def get? (table : Table κ ν) (key : κ) : Option ν :=
  lookup key table.entries

/-- Whether a key has a value. -/
def contains (table : Table κ ν) (key : κ) : Bool :=
  (table.get? key).isSome

/-- The table with the value of a key set, replacing an earlier one. -/
def insert (table : Table κ ν) (key : κ) (value : ν) : Table κ ν where
  entries := store key value table.entries
  distinct := by
    rw [map_fst_store]
    split
    · exact table.distinct
    · rename_i hkey
      exact List.nodup_append.2 ⟨table.distinct, by simp, by
        intro a ha b hb hab
        rw [List.mem_singleton.1 hb] at hab
        exact hkey (hab ▸ ha)⟩

/-- The table without a key. -/
def erase (table : Table κ ν) (key : κ) : Table κ ν where
  entries := table.entries.filter fun entry ↦ entry.1 ≠ key
  distinct := table.distinct.sublist (List.filter_sublist.map Prod.fst)

/-- The entries of both tables, where the second one has the last word. -/
def merge (first second : Table κ ν) : Table κ ν :=
  second.entries.foldl (fun merged entry ↦ merged.insert entry.1 entry.2) first

@[simp]
theorem get?_empty (key : κ) : (empty : Table κ ν).get? key = none :=
  rfl

/-- After an insertion the key has the new value and every other key its old one. -/
@[simp]
theorem get?_insert (table : Table κ ν) (key other : κ) (value : ν) :
    (table.insert key value).get? other = if key = other then some value else table.get? other :=
  lookup_store key other value table.entries

/-- After an erasure the key has no value and every other key its old one. -/
@[simp]
theorem get?_erase (table : Table κ ν) (key other : κ) :
    (table.erase key).get? other = if key = other then none else table.get? other := by
  change lookup other (table.entries.filter fun entry ↦ entry.1 ≠ key) =
    if key = other then none else lookup other table.entries
  induction table.entries with
  | nil => simp [lookup]
  | cons entry entries ih =>
    by_cases hkey : entry.1 = key
    · by_cases hother : key = other
      · simpa [lookup, hkey, hother] using ih
      · have hentry : ¬entry.1 = other := fun h ↦ hother (hkey.symm.trans h)
        simpa [lookup, hkey, hother, hentry] using ih
    · by_cases hother : key = other
      · have hentry : ¬entry.1 = other := fun h ↦ hkey (h.trans hother.symm)
        simpa [lookup, hkey, hother, hentry] using ih
      · rw [List.filter_cons_of_pos (by simpa using hkey)]
        by_cases hentry : entry.1 = other
        · simp [lookup, hother, hentry]
        · simpa [lookup, hkey, hother, hentry] using ih

/-- In a merged table the second table is asked before the first one. -/
@[simp]
theorem get?_merge (first second : Table κ ν) (key : κ) :
    (first.merge second).get? key = (second.get? key).or (first.get? key) := by
  obtain ⟨entries, distinct⟩ := second
  change (entries.foldl (fun merged entry ↦ merged.insert entry.1 entry.2) first).get? key =
    (lookup key entries).or (first.get? key)
  induction entries generalizing first with
  | nil => rfl
  | cons entry entries ih =>
    obtain ⟨hnew, hrest⟩ := List.nodup_cons.1 distinct
    rw [List.foldl_cons, ih _ hrest, get?_insert, lookup]
    by_cases hkey : entry.1 = key
    · rw [if_pos hkey, if_pos hkey, (lookup_eq_none_iff key entries).2 (hkey ▸ hnew)]
      rfl
    · rw [if_neg hkey, if_neg hkey]

theorem get?_eq_none_iff (table : Table κ ν) (key : κ) :
    table.get? key = none ↔ key ∉ table.keys :=
  lookup_eq_none_iff key table.entries

theorem contains_iff (table : Table κ ν) (key : κ) :
    table.contains key = true ↔ key ∈ table.keys := by
  rw [contains, Option.isSome_iff_ne_none, Ne, get?_eq_none_iff, Decidable.not_not]

/-- Erasing a listed key makes a table smaller. -/
theorem size_erase_lt {table : Table κ ν} {key : κ} {value : ν}
    (hkey : table.get? key = some value) : (table.erase key).size < table.size := by
  have hmem : key ∈ table.entries.map Prod.fst :=
    (contains_iff table key).1 (by simp [contains, hkey])
  obtain ⟨entry, hentry, hfst⟩ := List.mem_map.1 hmem
  refine List.length_filter_lt_length_iff_exists.2 ⟨entry, hentry, ?_⟩
  simp [hfst]

end Table

end Exemplar
