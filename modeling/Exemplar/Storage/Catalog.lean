import Exemplar.Descriptor.Printer
import Exemplar.Storage.Layout
import Exemplar.Table

/-!
A catalog holds one layout for each identity. The fields of a type are those of its superclass,
with the type arguments passed up, followed by its own. A superclass chain that comes back to an
identity is refused, and since there are finitely many layouts every chain ends.
-/

set_option autoImplicit false
set_option relaxedAutoImplicit false

namespace Exemplar

/-- Layouts by their identities. -/
structure Catalog where
  layouts : Table String Layout

namespace Catalog

/-- The catalog without layouts. -/
def empty : Catalog :=
  ⟨Table.empty⟩

/-- The number of layouts. -/
def size (catalog : Catalog) : Nat :=
  catalog.layouts.size

/-- Whether there are no layouts. -/
def isEmpty (catalog : Catalog) : Bool :=
  catalog.layouts.isEmpty

/-- The catalog with a layout in place of an earlier one of the same identity. A layout with a fault
is refused. -/
def register (catalog : Catalog) (layout : Layout) : Except Fault Catalog :=
  match layout.fault with
  | some fault => .error fault
  | none => .ok ⟨catalog.layouts.insert layout.identity layout⟩

/-- The layout of an identity, which may stand between white space. -/
def layout? (catalog : Catalog) (identity : String) : Option Layout :=
  catalog.layouts.get? (Text.trim identity)

/-- Whether an identity has a layout. -/
def contains (catalog : Catalog) (identity : String) : Bool :=
  (catalog.layout? identity).isSome

/-- The value that the ordinary constructor of a type makes from its arguments. -/
def construct (catalog : Catalog) (identity : String) (arguments : List Value) :
    Except Fault (Fresh Value) :=
  match catalog.layout? identity with
  | none => .error (.invalidArgument (.unknownLayout identity))
  | some layout =>
    match layout.constructor with
    | none => .error (.invalidArgument (.noConstructor identity))
    | some constructor => .ok (constructor arguments)

/-- The fields of a type met on the superclass chain of `start`. The layouts of the visited types
are not among `layouts`. -/
def fieldsFrom (start : Descriptor) (layouts : Table String Layout) (visited : List String)
    (d : Descriptor) : Except Fault (List Field) :=
  if d.identity ∈ visited then
    .error (.invalidArgument (.superclassLoop start.display d.identity))
  else
    match _hlayout : layouts.get? d.identity with
    | none => .error (.cannotSynthesize d.display .noLayout)
    | some layout =>
      match layout.superclass with
      | none => .ok (layout.instanceFields d.arguments)
      | some superclass => do
        let inherited ← fieldsFrom start (layouts.erase d.identity) (d.identity :: visited)
          (superclass.substitute layout.parameters d.arguments)
        return inherited ++ layout.instanceFields d.arguments
termination_by layouts.size
decreasing_by exact Table.size_erase_lt (by assumption)

/-- All fields of the values of a type, inherited ones first. -/
def fields (catalog : Catalog) (d : Descriptor) : Except Fault (List Field) :=
  fieldsFrom d catalog.layouts [] d

end Catalog

end Exemplar
