import Exemplar.Declaration.Identifier

/-!
The types that fields are declared with, and their description as descriptor texts. References,
parentheses and groups do not show, arrays and slices are vectors of their elements, and a path is
known by its last segment with the types among its arguments. Types of any other form have no
description.
-/

set_option autoImplicit false
set_option relaxedAutoImplicit false

namespace Exemplar

mutual

/-- The type of a field as it is declared. A global path begins with a double colon, and a
projection is a path behind a qualified type. A trait object is lone if it is one bound alone and
has no reserved name in front, so that further bounds can be added to it. -/
inductive FieldType
  | path (isGlobal : Bool) (leading : List Segment) (last : Segment)
  | projection (subject : FieldType) (leading : List Segment) (last : Segment)
  | reference (target : FieldType)
  | parenthesized (inner : FieldType)
  | group (inner : FieldType)
  | array (element : FieldType)
  | slice (element : FieldType)
  | tuple (components : List FieldType)
  | pointer (target : FieldType)
  | function (inputs : List FieldType)
  | traitObject (isLone : Bool)
  | implementation
  | macroCall
  | anonymous
  | never
  | inferred

/-- A segment of a path: a name alone, with arguments in angle brackets, or with the inputs of a
callable type in parentheses. -/
inductive Segment
  | plain (name : Identifier)
  | angled (name : Identifier) (arguments : List TypeArgument)
  | callable (name : Identifier) (inputs : List FieldType)

/-- An argument in angle brackets. An associated type can also be constrained by bounds. -/
inductive TypeArgument
  | type (type : FieldType)
  | lifetime
  | constant
  | associated (name : Identifier) (type : FieldType)
  | constrained (name : Identifier)

end

/-- Texts with a comma and a blank between any two of them. -/
def separated : List (List Char) → List Char
  | [] => []
  | [text] => text
  | text :: texts => text ++ ',' :: ' ' :: separated texts

mutual

/-- The characters of a type's description, if it has one. -/
def FieldType.chars? : FieldType → Option (List Char)
  | .path _ _ last => last.chars?
  | .projection _ _ last => last.chars?
  | .reference target => target.chars?
  | .parenthesized inner => inner.chars?
  | .group inner => inner.chars?
  | .array element => element.chars?.map fun chars ↦ ['V', 'e', 'c', '<'] ++ chars ++ ['>']
  | .slice element => element.chars?.map fun chars ↦ ['V', 'e', 'c', '<'] ++ chars ++ ['>']
  | .tuple _ | .pointer _ | .function _ | .traitObject _ | .implementation | .macroCall => none
  | .anonymous | .never | .inferred => none
termination_by structural type => type

/-- The characters of a segment's description. Its arguments show only if there are types among
them, and the inputs of a callable type do not show. -/
def Segment.chars? : Segment → Option (List Char)
  | .plain name => some name.text.toList
  | .callable name _ => some name.text.toList
  | .angled name arguments => (typeChars? arguments).map fun types ↦
    if types.isEmpty then name.text.toList
    else name.text.toList ++ '<' :: separated types ++ ['>']
termination_by structural segment => segment

/-- The descriptions of the types among the arguments. -/
def typeChars? : List TypeArgument → Option (List (List Char))
  | [] => some []
  | argument :: arguments =>
    match argument.chars?, typeChars? arguments with
    | some own, some others => some (own ++ others)
    | _, _ => none
termination_by structural arguments => arguments

/-- The description of an argument, if it is a type. Any other argument gives none. -/
def TypeArgument.chars? : TypeArgument → Option (List (List Char))
  | .type type => type.chars?.map fun chars ↦ [chars]
  | .lifetime | .constant | .associated _ _ | .constrained _ => some []
termination_by structural argument => argument

end

/-- The description of a type, if it has one. -/
def FieldType.describe? (type : FieldType) : Option String :=
  type.chars?.map String.ofList

end Exemplar
