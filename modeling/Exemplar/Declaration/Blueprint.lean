import Exemplar.Declaration.Basic
import Exemplar.Storage.Layout

/-!
From the declaration of a type to its layout. A struct becomes the layout of an ordinary type whose
fields are named by their identifiers or, in a tuple struct, by their positions. An enumeration
becomes one if its variants have no fields. The blueprint in between holds the declarations of the
layout as texts, which are read when the layout is built.
-/

set_option autoImplicit false
set_option relaxedAutoImplicit false

namespace Exemplar

/-- A field of a blueprint: its name, the text of its type, and whether it is static. -/
structure BlueprintField where
  name : String
  type : String
  isStatic : Bool
  deriving DecidableEq

/-- The declarations of a layout as texts. -/
inductive Blueprint
  | ordinary (identity : String) (parameters : List String) (superclass : Option String)
    (fields : List BlueprintField)
  | enumeration (identity : String) (constants : List String)
  deriving DecidableEq

namespace DeclaredField

/-- The name of the field at a position. -/
def nameAt (field : DeclaredField) (position : Nat) : String :=
  match field.name with
  | some name => name.text
  | none => toString position

/-- The field of a blueprint for the field at a position. A skipped field is static, and as static
fields never get a value, the root type stands for a type without a description. -/
def blueprintAt (field : DeclaredField) (position : Nat) : Except Rejection BlueprintField := do
  if ← isSkipped field.attributes then
    return ⟨field.nameAt position, field.type.describe?.getD TypeName.object.text, true⟩
  else
    match field.type.describe? with
    | some type => return ⟨field.nameAt position, type, false⟩
    | none => .error .undescribableType

/-- The fields of a blueprint for the fields from a position on. -/
def blueprintsFrom (position : Nat) : List DeclaredField → Except Rejection (List BlueprintField)
  | [] => return []
  | field :: fields => do
    let first ← field.blueprintAt position
    let others ← blueprintsFrom (position + 1) fields
    return first :: others

end DeclaredField

namespace Declaration

/-- The type parameters, without lifetimes and constants. -/
def typeParameters (declaration : Declaration) : List String :=
  declaration.generics.filterMap fun
    | .type name => some name.text
    | .lifetime | .constant => none

/-- The blueprint of the declared type. -/
def blueprint (declaration : Declaration) : Except Rejection Blueprint := do
  let options ← TypeOptions.ofAttributes declaration.attributes
  let identity := options.identity.getD declaration.name.text
  match declaration.body with
  | .struct fields =>
    return .ordinary identity declaration.typeParameters options.superclass
      (← DeclaredField.blueprintsFrom 0 fields)
  | .enumeration variants =>
    if options.superclass.isSome then .error .superclassOfEnum
    else if variants.any fun variant ↦ variant.shape ≠ .unit then .error .variantWithFields
    else return .enumeration identity (variants.map fun variant ↦ variant.name.text)
  | .union _ => .error .union

end Declaration

namespace Blueprint

/-- The layout with a field of a blueprint declared. -/
def declareField (layout : Layout) (field : BlueprintField) : Layout :=
  layout.declare field.name (Descriptor.ofString field.type) field.isStatic

/-- The layout with a superclass declared, if there is one. -/
def declareSuperclass (layout : Layout) : Option String → Layout
  | none => layout
  | some superclass => layout.withSuperclass (Descriptor.ofString superclass)

/-- The layout that a blueprint declares. -/
def layout : Blueprint → Fresh Layout
  | ordinary identity parameters superclass fields =>
    return fields.foldl declareField <|
      declareSuperclass ((Layout.ofKind identity .ordinary).withParameters parameters) superclass
  | enumeration identity constants => Layout.enumeration identity constants

end Blueprint

end Exemplar
