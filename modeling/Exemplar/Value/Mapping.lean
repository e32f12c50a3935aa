import Exemplar.Value.Equality

/-!
Maps between values. Inserting an entry replaces the value of the first equal key and keeps that
key; an entry with a key of its own goes to the end. A key that does not equal itself is never found
again, so each of its insertions adds an entry.
-/

set_option autoImplicit false
set_option relaxedAutoImplicit false

namespace Exemplar

/-- A map from values to values, named after its container type. -/
structure Mapping where
  container : String
  entries : List (Value × Value)

namespace Mapping

/-- The map without entries. -/
def empty (container : String) : Mapping :=
  ⟨container, []⟩

/-- The number of entries. -/
def size (mapping : Mapping) : Nat :=
  mapping.entries.length

/-- Whether there are no entries. -/
def isEmpty (mapping : Mapping) : Bool :=
  mapping.entries.isEmpty

/-- The entries with one more, which takes the place of the first entry with an equal key. -/
def put (key value : Value) : List (Value × Value) → List (Value × Value)
  | [] => [(key, value)]
  | entry :: entries =>
    if entry.1.equal key then (entry.1, value) :: entries else entry :: put key value entries

/-- The map with one more entry. -/
def insert (mapping : Mapping) (key value : Value) : Mapping :=
  ⟨mapping.container, put key value mapping.entries⟩

/-- The value of the first equal key. -/
def get? (mapping : Mapping) (key : Value) : Option Value :=
  (mapping.entries.find? fun entry ↦ entry.1.equal key).map Prod.snd

/-- The map made by inserting entries one after the other. -/
def ofList (container : String) (entries : List (Value × Value)) : Mapping :=
  entries.foldl (fun mapping entry ↦ mapping.insert entry.1 entry.2) (empty container)

/-- The map as an object. -/
def toObject (mapping : Mapping) : Object :=
  .map mapping.container mapping.entries

/-- Maps are equal if they are so as objects. -/
def equal (mapping other : Mapping) : Bool :=
  mapping.toObject.equal other.toObject

/-- The map behind a new reference. -/
def freeze (mapping : Mapping) : Fresh Value :=
  mapping.toObject.alloc

end Mapping

end Exemplar
