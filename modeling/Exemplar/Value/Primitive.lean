import Exemplar.Value.Basic

/-!
The primitive types. Each has a red and a black value, which differ, and a zero, which a field of
the type holds before it is written.
-/

set_option autoImplicit false
set_option relaxedAutoImplicit false

namespace Exemplar

/-- A primitive type. -/
inductive Primitive
  | bool
  | char
  | integer (kind : IntegerKind)
  | floating (kind : FloatingKind)
  deriving DecidableEq

namespace Primitive

/-- All primitive types. -/
def all : List Primitive :=
  [bool, char] ++ IntegerKind.all.map integer ++ [FloatingKind.single, .double].map floating

/-- The list of primitive types is complete. -/
theorem mem_all (primitive : Primitive) : primitive ∈ all := by
  rcases primitive with _ | _ | kind | kind
  · decide
  · decide
  · cases kind <;> decide
  · cases kind <;> decide

/-- The name of a primitive type. -/
def identity : Primitive → String
  | bool => "bool"
  | char => "char"
  | integer kind => kind.label
  | floating kind => kind.label

/-- The primitive type of a name. -/
def ofIdentity? (identity : String) : Option Primitive :=
  all.find? fun primitive ↦ primitive.identity = identity

/-- The red value. -/
def red : Primitive → Value
  | bool => .bool true
  | char => .char 'a'
  | integer kind => .integer (.ofSmall kind 1 (by decide))
  | floating kind => .floating (.one kind)

/-- The black value. -/
def black : Primitive → Value
  | bool => .bool false
  | char => .char 'b'
  | integer kind => .integer (.ofSmall kind 2 (by decide))
  | floating kind => .floating (.two kind)

/-- The value of a field that was not written yet. -/
def zero : Primitive → Value
  | bool => .bool false
  | char => .char '\x00'
  | integer kind => .integer (.ofSmall kind 0 (by decide))
  | floating kind => .floating (.zero kind)

end Primitive

end Exemplar
