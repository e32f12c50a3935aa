import Exemplar.Descriptor.Printer

/-!
The types being resolved at one moment, from the outermost request to the innermost. A type is
listed once. Extending the path of a request leaves the path itself as it is, so sibling requests
see only the requests around them.
-/

set_option autoImplicit false
set_option relaxedAutoImplicit false

namespace Exemplar

/-- Pairwise different types whose requests are nested, outermost first. -/
structure RequestPath where
  types : List Descriptor
  distinct : types.Nodup

namespace RequestPath

/-- The path of a request that no other request encloses. -/
def empty : RequestPath :=
  ⟨[], List.nodup_nil⟩

/-- Whether a type is being resolved. -/
def contains (path : RequestPath) (d : Descriptor) : Bool :=
  d ∈ path.types

/-- The path within a request for a type. -/
def extend (path : RequestPath) (d : Descriptor) : RequestPath :=
  if hmem : d ∈ path.types then path
  else
    ⟨path.types ++ [d], List.nodup_append.2 ⟨path.distinct, by simp, by
      intro e he f hf hef
      rw [List.mem_singleton.1 hf] at hef
      exact hmem (hef ▸ he)⟩⟩

/-- The path within requests for several types, the first one outermost. -/
def ofList (ds : List Descriptor) : RequestPath :=
  ds.foldl extend empty

/-- The number of types. -/
def size (path : RequestPath) : Nat :=
  path.types.length

/-- Whether no type is being resolved. -/
def isEmpty (path : RequestPath) : Bool :=
  path.types.isEmpty

/-- Whether two paths hold the same types, in whatever order. -/
def equal (path other : RequestPath) : Bool :=
  path.size = other.size && path.types.all other.contains

/-- The types from the outermost to the innermost, with arrows between them. -/
def display (path : RequestPath) : String :=
  " -> ".intercalate (path.types.map Descriptor.display)

theorem contains_iff_mem_types (path : RequestPath) (d : Descriptor) :
    path.contains d = true ↔ d ∈ path.types :=
  decide_eq_true_iff

/-- Within a request for a type, that type is being resolved, and so are all types before it. -/
theorem mem_types_extend (path : RequestPath) (d e : Descriptor) :
    e ∈ (path.extend d).types ↔ e ∈ path.types ∨ e = d := by
  unfold extend
  split
  · rename_i hmem
    constructor
    · exact Or.inl
    · rintro (he | rfl)
      · exact he
      · exact hmem
  · simp

end RequestPath

end Exemplar
