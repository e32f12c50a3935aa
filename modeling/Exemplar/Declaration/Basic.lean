import Exemplar.Declaration.Attribute
import Exemplar.Declaration.FieldType

/-!
The declaration of a type: its name, its parameters, its attributes, and its fields or variants.
-/

set_option autoImplicit false
set_option relaxedAutoImplicit false

namespace Exemplar

/-- A field of a struct. The fields of a tuple struct have no names. -/
structure DeclaredField where
  name : Option Identifier
  type : FieldType
  attributes : List Attribute

/-- What a variant of an enumeration holds. -/
inductive VariantShape
  | unit
  | tuple
  | named
  deriving DecidableEq

/-- A variant of an enumeration. -/
structure Variant where
  name : Identifier
  shape : VariantShape

/-- A parameter of a declaration. -/
inductive GenericParameter
  | type (name : Identifier)
  | lifetime
  | constant

/-- What is declared. -/
inductive DeclaredBody
  | struct (fields : List DeclaredField)
  | enumeration (variants : List Variant)
  | union (fields : List DeclaredField)

/-- The declaration of a type. -/
structure Declaration where
  name : Identifier
  generics : List GenericParameter
  attributes : List Attribute
  body : DeclaredBody

end Exemplar
