import Exemplar.Descriptor.Basic
import Exemplar.Number.Floating
import Exemplar.Number.Integer
import Exemplar.Supply

/-!
Synthesized values. Primitive values are inline. Everything else is an object behind a numbered
reference, and the number is the identity of the object: two references may hold equal objects and
still be different references. Parts of an object are values in turn, so an object shared by two
values occurs in both under one number.
-/

set_option autoImplicit false
set_option relaxedAutoImplicit false

namespace Exemplar

mutual

/-- A value: the null value, a primitive one, or a reference with its number and its object. -/
inductive Value
  | null
  | bool (value : Bool)
  | char (value : Char)
  | integer (value : Integer)
  | floating (value : Floating)
  | ref (number : Nat) (object : Object)

/-- What a reference holds. A marker is known by its label alone. Elements of an ordered collection
have a place, those of an unordered one only a multiplicity. A hollow object stands for a value of
its type that is still being made. -/
inductive Object
  | text (content : String)
  | marker (label : String)
  | enumConstant (enumeration name : String)
  | collection (container : String) (ordered : Bool) (elements : List Value)
  | map (container : String) (entries : List (Value × Value))
  | record (descriptor : Descriptor) (fields : List (String × Value))
  | hollow (descriptor : Descriptor)

end

namespace Object

/-- The object behind a new reference. -/
def alloc (object : Object) : Fresh Value :=
  return .ref (← Fresh.next) object

/-- Whether this is a hollow object. -/
def isHollow : Object → Bool
  | hollow _ => true
  | _ => false

/-- Whether a copy of the object is the object itself. Constants of an enumeration exist once, and
hollow objects have nothing but their identity. -/
def isUnique : Object → Bool
  | enumConstant _ _ => true
  | hollow _ => true
  | _ => false

/-- The elements of a collection. -/
def elements? : Object → Option (List Value)
  | collection _ _ elements => some elements
  | _ => none

/-- The entries of a map. -/
def entries? : Object → Option (List (Value × Value))
  | map _ entries => some entries
  | _ => none

/-- The type of a record. -/
def recordType? : Object → Option Descriptor
  | record descriptor _ => some descriptor
  | _ => none

end Object

/-- The value under a name in a list of named values. A name listed twice is the name of its last
value, so a field of a type hides an inherited one. -/
def lastNamed? {α : Type} (name : String) (named : List (String × α)) : Option α :=
  (named.reverse.find? fun field ↦ field.1 = name).map Prod.snd

namespace Object

/-- A field of a record by its name. -/
def field? (name : String) : Object → Option Value
  | record _ fields => lastNamed? name fields
  | _ => none

end Object

namespace Value

/-- Whether this is the null value. -/
def isNull : Value → Bool
  | null => true
  | _ => false

/-- The object of a reference. -/
def object? : Value → Option Object
  | ref _ object => some object
  | _ => none

/-- The truth value, if this is one. -/
def asBool? : Value → Option Bool
  | bool value => some value
  | _ => none

/-- The number, if this is a signed integer of 32 bits. -/
def asI32? : Value → Option Int
  | integer n => if n.kind = .i32 then some n.value else none
  | _ => none

/-- The content, if this is a text. -/
def asText? : Value → Option String
  | ref _ (.text content) => some content
  | _ => none

/-- Whether both values are the same reference. Inline values have no identity. -/
def sameReference : Value → Value → Bool
  | ref number _, ref other _ => number = other
  | _, _ => false

/-- An equal value behind a new reference, if the value is a reference to an object that can exist
twice. The copy shares the parts of the object. -/
def duplicate : Value → Fresh Value
  | ref number object => if object.isUnique then return ref number object else object.alloc
  | value => return value

end Value

end Exemplar
