import Exemplar.Descriptor.Basic
import Exemplar.Value.Basic

/-!
The layout of a type declares what its values have in storage: the kind of the type, its type
parameters, its superclass and its fields. A layout is built declaration by declaration. A
declaration that cannot be accepted is left out, and the first such fault stays with the layout
until it is registered.
-/

set_option autoImplicit false
set_option relaxedAutoImplicit false

namespace Exemplar

/-- A declared field. Static fields belong to the type and not to its values. -/
structure Field where
  name : String
  type : Descriptor
  isStatic : Bool
  deriving DecidableEq

/-- A constant of an enumeration: its name and the number of its only reference. -/
structure Constant where
  number : Nat
  name : String
  deriving DecidableEq

/-- What values of a type are. Abstract types have no constructor of their own but have fields,
interfaces have no storage, and enumerations have a closed list of constants. -/
inductive LayoutKind
  | ordinary
  | abstract
  | interface
  | enumeration (constants : List Constant)

/-- The layout of a type, as far as it is declared. The constructor is the ordinary way to make a
value, which synthesis never uses. -/
structure Layout where
  identity : String
  kind : LayoutKind
  parameters : List String
  superclass : Option Descriptor
  fields : List Field
  constructor : Option (List Value → Fresh Value)
  fault : Option Fault

namespace Layout

/-- The layout of a kind without any declarations. -/
def ofKind (identity : String) (kind : LayoutKind) : Layout where
  identity := Text.trim identity
  kind := kind
  parameters := []
  superclass := none
  fields := []
  constructor := none
  fault :=
    if Text.trim identity = "" then some (.invalidArgument .emptyLayoutIdentity) else none

/-- Constants with the given names, each behind a new reference. -/
def allocConstants : List String → Fresh (List Constant)
  | [] => return []
  | name :: names => do
    let number ← Fresh.next
    let constants ← allocConstants names
    return ⟨number, name⟩ :: constants

/-- The layout of an enumeration, whose constants are made once, here. -/
def enumeration (identity : String) (names : List String) : Fresh Layout :=
  return ofKind identity (.enumeration (← allocConstants names))

/-- The layout with a fault, unless it has one already. -/
def reject (layout : Layout) (fault : Fault) : Layout :=
  { layout with fault := layout.fault.or (some fault) }

/-- The layout with type parameters, in declaration order. -/
def withParameters (layout : Layout) (parameters : List String) : Layout :=
  { layout with parameters := parameters }

/-- The layout with a superclass, whose arguments may name the layout's parameters. -/
def withSuperclass (layout : Layout) (superclass : Except Fault Descriptor) : Layout :=
  match superclass with
  | .ok descriptor => { layout with superclass := some descriptor }
  | .error fault => layout.reject fault

/-- The layout with one more field. Its name must not be blank, nor be the name of a field declared
before, and its type must be readable; they are checked in this order. -/
def declare (layout : Layout) (name : String) (type : Except Fault Descriptor) (isStatic : Bool) :
    Layout :=
  if Text.trim name = "" then
    layout.reject (.invalidArgument (.emptyFieldName layout.identity))
  else if layout.fields.any fun field ↦ field.name = name then
    layout.reject (.invalidArgument (.repeatedField layout.identity name))
  else
    match type with
    | .ok descriptor => { layout with fields := layout.fields ++ [⟨name, descriptor, isStatic⟩] }
    | .error fault => layout.reject fault

/-- The layout with a field of its values. -/
def withField (layout : Layout) (name : String) (type : Except Fault Descriptor) : Layout :=
  layout.declare name type false

/-- The layout with a field of the type itself. -/
def withStaticField (layout : Layout) (name : String) (type : Except Fault Descriptor) : Layout :=
  layout.declare name type true

/-- The layout with an ordinary constructor. -/
def withConstructor (layout : Layout) (constructor : List Value → Fresh Value) : Layout :=
  { layout with constructor := some constructor }

/-- The constants of an enumeration; other types have none. -/
def constants (layout : Layout) : List Constant :=
  match layout.kind with
  | .enumeration constants => constants
  | _ => []

/-- A constant as a value of the type. -/
def constantValue (layout : Layout) (constant : Constant) : Value :=
  .ref constant.number (.enumConstant layout.identity constant.name)

/-- Whether values of the type have storage. -/
def hasStorage (layout : Layout) : Bool :=
  match layout.kind with
  | .interface => false
  | _ => true

/-- The fields that the layout itself gives to values of the type with the given arguments. -/
def instanceFields (layout : Layout) (arguments : List Descriptor) : List Field :=
  (layout.fields.filter fun field ↦ !field.isStatic).map fun field ↦
    ⟨field.name, field.type.substitute layout.parameters arguments, false⟩

end Layout

end Exemplar
