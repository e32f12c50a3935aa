import Exemplar.Storage.Layout
import Exemplar.Synthesis.Factory

/-!
The outline of a layout or a factory shows its structure in full: every part under its name, texts
in quotes, lists in square brackets. Functions cannot be shown, so an outline only says that there
is one.
-/

set_option autoImplicit false
set_option relaxedAutoImplicit false

namespace Exemplar.Outline

/-- Named parts in curly brackets behind a heading. -/
def fields (heading : String) (parts : List (String × String)) : String :=
  heading ++ " \x7b " ++
    ", ".intercalate (parts.map fun part ↦ part.1 ++ ": " ++ part.2) ++ " \x7d"

/-- One part in parentheses behind a heading. -/
def wrapped (heading part : String) : String :=
  heading ++ "(" ++ part ++ ")"

/-- Parts in square brackets. -/
def list (parts : List String) : String :=
  "[" ++ ", ".intercalate parts ++ "]"

/-- A truth value. -/
def truth (value : Bool) : String :=
  if value then "true" else "false"

mutual

/-- The outline of a descriptor. -/
def descriptor : Descriptor → String
  | ⟨name, arguments⟩ =>
    fields "TypeDescriptor"
      [("identity", Text.quote name.text), ("arguments", list (descriptors arguments))]
termination_by structural d => d

/-- The outlines of descriptors. -/
def descriptors : List Descriptor → List String
  | [] => []
  | d :: ds => descriptor d :: descriptors ds
termination_by structural ds => ds

end

/-- The heading of integers of a kind. -/
def integerHeading : IntegerKind → String
  | .i8 => "I8"
  | .i16 => "I16"
  | .i32 => "I32"
  | .i64 => "I64"
  | .i128 => "I128"
  | .isize => "Isize"
  | .u8 => "U8"
  | .u16 => "U16"
  | .u32 => "U32"
  | .u64 => "U64"
  | .u128 => "U128"
  | .usize => "Usize"

/-- The heading of floating-point numbers of a kind. -/
def floatingHeading : FloatingKind → String
  | .single => "F32"
  | .double => "F64"

/-- The outline of a constant of an enumeration. -/
def enumConstant (enumeration name : String) : String :=
  fields "EnumConstant" [("enumeration", Text.quote enumeration), ("name", Text.quote name)]

mutual

/-- The outline of a value. -/
def value : Value → String
  | .null => "Null"
  | .bool b => wrapped "Bool" (truth b)
  | .char c => wrapped "Char" (Text.quoteChar c)
  | .integer n => wrapped (integerHeading n.kind) n.display
  | .floating x => wrapped (floatingHeading x.kind) x.display
  | .ref _ o => wrapped "Ref" (wrapped "Instance" (object o))
termination_by structural v => v

/-- The outline of an object. -/
def object : Object → String
  | .text content => wrapped "Text" (Text.quote content)
  | .marker label => wrapped "Marker" (Text.quote label)
  | .enumConstant enumeration name => enumConstant enumeration name
  | .collection container ordered elements =>
    wrapped "Collection" <| fields "Collection"
      [("container", Text.quote container), ("ordered", truth ordered),
        ("elements", list (values elements))]
  | .map container mapEntries =>
    wrapped "Map" <| fields "MapObject"
      [("container", Text.quote container), ("entries", list (entries mapEntries))]
  | .record type recordFields =>
    wrapped "Record" <| fields "Record"
      [("descriptor", descriptor type), ("fields", list (namedValues recordFields))]
  | .hollow type => wrapped "Hollow" (descriptor type)
termination_by structural o => o

/-- The outlines of values. -/
def values : List Value → List String
  | [] => []
  | v :: vs => value v :: values vs
termination_by structural vs => vs

/-- The outlines of entries. -/
def entries : List (Value × Value) → List String
  | [] => []
  | e :: es => entry e :: entries es
termination_by structural es => es

/-- The outline of an entry. -/
def entry : Value × Value → String
  | (key, content) => "(" ++ value key ++ ", " ++ value content ++ ")"
termination_by structural e => e

/-- The outlines of named values. -/
def namedValues : List (String × Value) → List String
  | [] => []
  | f :: fs => namedValue f :: namedValues fs
termination_by structural fs => fs

/-- The outline of a named value. -/
def namedValue : String × Value → String
  | (name, content) => "(" ++ Text.quote name ++ ", " ++ value content ++ ")"
termination_by structural f => f

end

/-- The outline of a declared field. -/
def field (f : Field) : String :=
  fields "FieldDecl"
    [("name", Text.quote f.name), ("ty", descriptor f.type), ("is_static", truth f.isStatic)]

/-- The outline of the kind of a layout. -/
def kind (layout : Layout) : String :=
  match layout.kind with
  | .ordinary => "Class"
  | .abstract => "Abstract"
  | .interface => "Interface"
  | .enumeration constants =>
    wrapped "Enum" <| list <| constants.map fun constant ↦
      wrapped "Instance" (enumConstant layout.identity constant.name)

/-- The outline of a layout. -/
def layout (l : Layout) : String :=
  let superclass :=
    match l.superclass with
    | none => "None"
    | some d => wrapped "Some" (descriptor d)
  fields "ClassLayout"
    [("identity", Text.quote l.identity),
      ("type_parameters", list (l.parameters.map Text.quote)),
      ("superclass", superclass),
      ("fields", list (l.fields.map field)),
      ("kind", kind l),
      ("has_constructor", truth l.constructor.isSome)]

/-- The outline of a triple. -/
def triple (t : Triple) : String :=
  fields "ValueTriple"
    [("red", value t.red), ("black", value t.black), ("red_copy", value t.redCopy)]

/-- The outline of a factory. -/
def factory : Factory → String
  | .constant t => wrapped "Constant" (fields "ConstantFactory" [("triple", triple t)])
  | .copy underlying _ =>
    wrapped "Copy" ("CopyFactory \x7b underlying: " ++ Text.quote underlying ++ ", .. \x7d")
  | other => other.kind

/-- The outline of a factory that calls a constructor. -/
def genericFactory (constructor : GenericConstructor) : String :=
  fields "GenericFactory"
    [("constructor", wrapped "GenericConstructor" ("arity " ++ toString constructor.arity))]

end Exemplar.Outline
