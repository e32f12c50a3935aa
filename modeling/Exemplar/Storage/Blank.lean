import Exemplar.Storage.Catalog
import Exemplar.Value.Primitive

/-!
A blank is a record that is still being filled: one slot for each field of its type, in the order in
which the catalog lists the fields. Slots are written by position or by name. A name that occurs
twice, because a type redeclares an inherited field, means the last slot of that name.
-/

set_option autoImplicit false
set_option relaxedAutoImplicit false

namespace Exemplar

/-- A record whose fields can still be written. -/
structure Blank where
  descriptor : Descriptor
  slots : List (String × Value)

namespace Blank

/-- The value of a field that was not written yet: the zero of a primitive type, or else null. -/
def zero (field : Field) : Value :=
  match Primitive.ofIdentity? field.type.identity with
  | some primitive => primitive.zero
  | none => .null

/-- The blank with the given fields, all of them zero. -/
def zeroed (descriptor : Descriptor) (fields : List Field) : Blank :=
  ⟨descriptor, fields.map fun field ↦ (field.name, zero field)⟩

/-- Storage for a value of a type. Interfaces have none, and the constants of an enumeration exist
already. -/
def allocate (catalog : Catalog) (d : Descriptor) : Except Fault Blank :=
  match catalog.layout? d.identity with
  | none => .error (.cannotSynthesize d.display .noLayout)
  | some layout =>
    match layout.kind with
    | .interface => .error (.cannotSynthesize d.display .interfaceStorage)
    | .enumeration _ => .error (.cannotSynthesize d.display .enumStorage)
    | .ordinary | .abstract => do return zeroed d (← catalog.fields d)

/-- The number of slots. -/
def size (blank : Blank) : Nat :=
  blank.slots.length

/-- The names of the slots. -/
def names (blank : Blank) : List String :=
  blank.slots.map Prod.fst

/-- The position of the last slot of a name. -/
def position? (blank : Blank) (name : String) : Option Nat :=
  (blank.slots.reverse.findIdx? fun slot ↦ slot.1 = name).map fun index ↦ blank.size - 1 - index

/-- The blank with the value of the slot at a position replaced. -/
def write (blank : Blank) (position : Nat) (value : Value) : Blank :=
  ⟨blank.descriptor, blank.slots.modify position fun slot ↦ (slot.1, value)⟩

/-- The blank with the slot at a position written. -/
def setSlot (blank : Blank) (position : Nat) (value : Value) : Except Fault Blank :=
  if position < blank.size then .ok (blank.write position value)
  else
    .error (.invalidArgument (.unknownSlot blank.descriptor.display blank.size position))

/-- The blank with the last slot of a name written. -/
def set (blank : Blank) (name : String) (value : Value) : Except Fault Blank :=
  match blank.position? name with
  | some position => .ok (blank.write position value)
  | none => .error (.invalidArgument (.unknownField blank.descriptor.display name))

/-- The value of the last slot of a name. -/
def get? (blank : Blank) (name : String) : Option Value :=
  lastNamed? name blank.slots

/-- The record with the fields written so far, behind a new reference. -/
def freeze (blank : Blank) : Fresh Value :=
  (Object.record blank.descriptor blank.slots).alloc

end Blank

end Exemplar
