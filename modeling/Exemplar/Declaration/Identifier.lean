import Exemplar.Descriptor.Reader

/-!
The names in declarations. They are written like the names in descriptors, so that the description
of a type made of them can be read.
-/

set_option autoImplicit false
set_option relaxedAutoImplicit false

namespace Exemplar

/-- A name in a declaration. It has characters, and only those of names in descriptors. -/
structure Identifier where
  text : String
  nonempty : text.toList ≠ []
  plain : ∀ c ∈ text.toList, isNameChar c = true
  deriving DecidableEq

/-- The identifier that a text is, if it is one. -/
def Identifier.ofString? (text : String) : Option Identifier :=
  if hempty : text.toList = [] then none
  else if hplain : text.toList.all isNameChar = true then
    some ⟨text, hempty, by simpa using hplain⟩
  else none

end Exemplar
