import Exemplar.Synthesis.Factory
import Exemplar.Value.Primitive

/-!
A registry holds one factory for each identity. Identities are trimmed when a factory is registered
and whenever one is looked for, and a blank identity is not registered at all. The standard registry
covers the primitive types, texts, the root type and the usual containers.
-/

set_option autoImplicit false
set_option relaxedAutoImplicit false

namespace Exemplar

/-- Factories by the identities of their types. -/
structure Registry where
  factories : Table String Factory

namespace Registry

/-- The registry without factories. -/
def empty : Registry :=
  ⟨Table.empty⟩

/-- The number of factories. -/
def size (registry : Registry) : Nat :=
  registry.factories.size

/-- Whether there are no factories. -/
def isEmpty (registry : Registry) : Bool :=
  registry.factories.isEmpty

/-- The registry with a factory in place of an earlier one for the same identity. -/
def register (registry : Registry) (identity : String) (factory : Factory) : Registry :=
  if Text.trim identity = "" then registry
  else ⟨registry.factories.insert (Text.trim identity) factory⟩

/-- The factory for an identity. -/
def lookup? (registry : Registry) (identity : String) : Option Factory :=
  registry.factories.get? (Text.trim identity)

/-- Whether there is a factory for an identity. -/
def contains (registry : Registry) (identity : String) : Bool :=
  registry.factories.contains (Text.trim identity)

/-- The registry without the factory for an identity. -/
def erase (registry : Registry) (identity : String) : Registry :=
  ⟨registry.factories.erase (Text.trim identity)⟩

/-- Whether there was a factory for an identity, and the registry without it. -/
def remove (registry : Registry) (identity : String) : Bool × Registry :=
  (registry.contains identity, registry.erase identity)

/-- The factories of both registries, where the second one has the last word. -/
def merge (first second : Registry) : Registry :=
  ⟨first.factories.merge second.factories⟩

/-- The registered identities. -/
def identities (registry : Registry) : List String :=
  registry.factories.keys

/-- Registering a factory changes the look-ups of its identity, however padded, and of no other. -/
theorem lookup?_register (registry : Registry) (identity other : String) (factory : Factory) :
    (registry.register identity factory).lookup? other =
      if Text.trim identity = Text.trim other ∧ Text.trim identity ≠ "" then some factory
      else registry.lookup? other := by
  by_cases hblank : Text.trim identity = ""
  · simp [register, hblank]
  · by_cases hother : Text.trim identity = Text.trim other
    · simp [register, lookup?, hother, hother ▸ hblank]
    · simp [register, lookup?, hblank, hother]

/-- Erasing an identity changes the look-ups of that identity, however padded, and of no other. -/
theorem lookup?_erase (registry : Registry) (identity other : String) :
    (registry.erase identity).lookup? other =
      if Text.trim identity = Text.trim other then none else registry.lookup? other :=
  Table.get?_erase registry.factories (Text.trim identity) (Text.trim other)

/-- Merged registries have the factories of both, where the second one has the last word. -/
theorem lookup?_merge (first second : Registry) (identity : String) :
    (first.merge second).lookup? identity =
      (second.lookup? identity).or (first.lookup? identity) :=
  Table.get?_merge first.factories second.factories (Text.trim identity)

/-- The fixed values of a primitive type. -/
def primitiveFactory (primitive : Primitive) : Factory :=
  .constant ⟨primitive.red, primitive.black, primitive.red⟩

/-- Three new texts. -/
def textFactory : Fresh Factory := do
  let red ← (Object.text "one").alloc
  let black ← (Object.text "two").alloc
  let redCopy ← (Object.text "one").alloc
  return .constant ⟨red, black, redCopy⟩

/-- Three new markers, for values of the root type. -/
def objectFactory : Fresh Factory := do
  let red ← (Object.marker "red").alloc
  let black ← (Object.marker "black").alloc
  let redCopy ← (Object.marker "red").alloc
  return .constant ⟨red, black, redCopy⟩

/-- The containers of one element whose elements have an order. -/
def orderedContainers : List String :=
  ["Vec", "VecDeque", "LinkedList", "Option", "Box"]

/-- The containers of one element whose elements have none. -/
def unorderedContainers : List String :=
  ["HashSet", "BTreeSet"]

/-- The map types. -/
def mapContainers : List String :=
  ["HashMap", "BTreeMap"]

/-- The registry with one factory for each of several identities. -/
def registerAll (registry : Registry) (identities : List String) (factory : Factory) : Registry :=
  identities.foldl (fun registry identity ↦ registry.register identity factory) registry

/-- The standard registry, with texts and markers of its own. -/
def standard : Fresh Registry := do
  let texts ← textFactory
  let markers ← objectFactory
  let primitives := Primitive.all.foldl
    (fun registry primitive ↦ registry.register primitive.identity (primitiveFactory primitive))
    empty
  return ((((primitives.register "String" texts).register TypeName.object.text markers).registerAll
    orderedContainers (.container true)).registerAll
    unorderedContainers (.container false)).registerAll mapContainers .map

end Registry

end Exemplar
