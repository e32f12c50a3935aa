import Exemplar.Proofs.Declaration.Erasure
import Exemplar.Proofs.Declaration.Problems
import Exemplar.Proofs.Storage.Registration

/-!
The layout of a declaration, once it is registered. The texts in a blueprint are read when its
layout is built, but the descriptions of field types always read back, as the erasures of the types,
and the names of fields are never blank. So if the fields of a struct have different names, nothing
but a blank identity or an unreadable superclass is a fault. Fields are declared in order, static if
they are skipped, and the constants of an enumeration are its variants. An enumeration has no fields
that its type parameters could be put into, and its layout leaves them out.
-/

set_option autoImplicit false
set_option relaxedAutoImplicit false

namespace Exemplar

open Attribute Rejection

/-! ### Names of fields -/

namespace Text

end Text

namespace DeclaredField

/-- The field that a layout gets for a field at a position: its type is the erasure of the declared
one, or the root type if there is none. -/
def fieldAt (field : DeclaredField) (position : Nat) : Field :=
  ⟨field.nameAt position, field.type.erase?.getD Descriptor.object, saySkip field.attributes⟩

end DeclaredField

namespace Blueprint

/-- The field that is declared by a field of a blueprint. -/
def Reads (field : BlueprintField) (declared : Field) : Prop :=
  declared.name = field.name ∧ Descriptor.ofString field.type = .ok declared.type ∧
    declared.isStatic = field.isStatic

/-- The layout of a struct before its fields are declared. -/
def base (identity : String) (parameters : List String) (superclass : Option String) : Layout :=
  declareSuperclass ((Layout.ofKind identity .ordinary).withParameters parameters) superclass

variable {identity : String} {parameters : List String} {superclass : Option String}

end Blueprint

/-! ### Registered declarations -/

namespace Declaration

end Declaration

/-- A layout lists what is declared. The fields of a struct are in order, under their names or
positions, and each one that is not skipped has the erasure of its type. An enumeration has its
variants in order as constants, and nothing else. -/
structure Layout.Lists (layout : Layout) (declaration : Declaration) : Prop where
  identity : layout.identity = Text.trim declaration.identity
  superclass : layout.superclass =
    declaration.superclassText?.bind fun text ↦ (Descriptor.ofString text).toOption
  constructor : layout.constructor = none
  body : match declaration.body with
    | .struct fields =>
      layout.kind = .ordinary ∧ layout.parameters = declaration.typeParameters ∧
      layout.fields = fields.mapIdx (fun position field ↦ field.fieldAt position) ∧
      ∀ field ∈ fields, saySkip field.attributes = false → ∃ d, field.type.erase? = some d
    | .enumeration variants =>
      layout.parameters = [] ∧ layout.fields = [] ∧
      ∃ constants, layout.kind = .enumeration constants ∧
        constants.map Constant.name = variants.map fun variant ↦ variant.name.text
    | .union _ => False

namespace Declaration

variable {declaration : Declaration} {blueprint : Blueprint}

end Declaration

/-! ### A struct with a skipped field, and an enumeration with a type parameter -/

namespace Listed

/-- The name of a type parameter. -/
def nameItem : Identifier :=
  ⟨"Item", by decide, List.all_eq_true.1 (by decide)⟩

/-- The enumeration `E<Item>` with a variant `A`. -/
def enumeration : Declaration where
  name := ⟨"E", by decide, List.all_eq_true.1 (by decide)⟩
  generics := [.type nameItem]
  attributes := []
  body := .enumeration [⟨⟨"A", by decide, List.all_eq_true.1 (by decide)⟩, .unit⟩]

end Listed

namespace Declaration

end Declaration

end Exemplar
