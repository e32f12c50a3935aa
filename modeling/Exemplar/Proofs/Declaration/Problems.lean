import Exemplar.Declaration.Blueprint

/-!
What is wrong with a declaration. All problems are listed in the order in which a declaration is
read: those of the entries of the type, then field by field those of the entries of a field and of
its type, or those of the variants. The first problem, if there is one, decides, and a declaration
without problems has the blueprint that its attributes, its parameters and its fields or variants
give, where of several entries of one name the last one counts.
-/

set_option autoImplicit false
set_option relaxedAutoImplicit false

namespace Exemplar

/-! ### The first problem decides -/

namespace Rejection

/-- The problem of what failed. -/
def ofResult {α : Type} : Except Rejection α → List Rejection
  | .ok _ => []
  | .error rejection => [rejection]

variable {α β : Type} {problems : List Rejection}

end Rejection

open Rejection

/-! ### Entries -/

namespace Entry

/-- The text that an entry of a name gives. -/
def textOf? (name : String) : Except Rejection Entry → Option String
  | .ok entry => if entry.path.isName name then entry.text.toOption else none
  | .error _ => none

/-- Whether an entry says that a field is skipped. -/
def saysSkip : Except Rejection Entry → Bool
  | .ok entry => entry.path.isName "skip"
  | .error _ => false

/-- The problem of an entry on a type. -/
def typeProblems : Except Rejection Entry → List Rejection
  | .error rejection => [rejection]
  | .ok entry =>
    if entry.path.isName "identity" || entry.path.isName "extends" then ofResult entry.text
    else [.unknownTypeEntry]

/-- The problem of an entry on a field. -/
def fieldProblems : Except Rejection Entry → List Rejection
  | .error rejection => [rejection]
  | .ok entry =>
    if entry.path.isName "skip" then ofResult entry.checkBare else [.unknownFieldEntry]

end Entry

namespace Attribute

/-- The text that the last entry of a name gives. -/
def lastText? (name : String) (attributes : List Attribute) : Option String :=
  ((allEntries attributes).filterMap (Entry.textOf? name)).getLast?

/-- Whether one of the entries says that a field is skipped. -/
def saySkip (attributes : List Attribute) : Bool :=
  (allEntries attributes).any Entry.saysSkip

end Attribute

open Attribute

/-! ### Options of a type -/

namespace TypeOptions

/-- The options with those that an entry gives. -/
def update (options : TypeOptions) (read : Except Rejection Entry) : TypeOptions :=
  ⟨(Entry.textOf? "identity" read).or options.identity,
    (Entry.textOf? "extends" read).or options.superclass⟩

end TypeOptions

/-! ### Fields -/

namespace DeclaredField

/-- What is wrong with a field: its entries, and its type, unless the field is skipped. -/
def problems (field : DeclaredField) : List Rejection :=
  (allEntries field.attributes).flatMap Entry.fieldProblems ++
    if saySkip field.attributes || field.type.describe?.isSome then [] else [.undescribableType]

end DeclaredField

/-! ### Declarations -/

namespace Declaration

/-- The identity of the declared type: the last one that its attributes give, or else its name. -/
def identity (declaration : Declaration) : String :=
  (lastText? "identity" declaration.attributes).getD declaration.name.text

/-- The text of the superclass: the last one that the attributes give. -/
def superclassText? (declaration : Declaration) : Option String :=
  lastText? "extends" declaration.attributes

/-- What is wrong with the fields or variants of a declaration, or with the declared form. -/
def bodyProblems (declaration : Declaration) : List Rejection :=
  match declaration.body with
  | .struct fields => fields.flatMap DeclaredField.problems
  | .enumeration variants =>
    (if declaration.superclassText?.isSome then [.superclassOfEnum] else []) ++
      (variants.filter fun variant ↦ variant.shape ≠ .unit).map fun _ ↦ .variantWithFields
  | .union _ => [.union]

/-- What is wrong with a declaration, in the order in which it is read. -/
def problems (declaration : Declaration) : List Rejection :=
  (allEntries declaration.attributes).flatMap Entry.typeProblems ++ declaration.bodyProblems

variable {declaration : Declaration}

end Declaration

end Exemplar
