import Exemplar.Descriptor.Basic

/-!
The display of a descriptor is its name, followed by its arguments between angle brackets if it has
any, with a comma and a blank between two arguments.
-/

set_option autoImplicit false
set_option relaxedAutoImplicit false

namespace Exemplar.Descriptor

mutual

/-- The characters of the display. -/
def chars : Descriptor → List Char
  | ⟨name, []⟩ => name.text.toList
  | ⟨name, d :: ds⟩ => name.text.toList ++ '<' :: (chars d ++ charsAfter ds ++ ['>'])
termination_by structural d => d

/-- The characters of the arguments after the first, each behind a comma and a blank. -/
def charsAfter : List Descriptor → List Char
  | [] => []
  | d :: ds => ',' :: ' ' :: (chars d ++ charsAfter ds)
termination_by structural ds => ds

end

/-- The display of a descriptor. -/
def display (d : Descriptor) : String :=
  String.ofList d.chars

end Exemplar.Descriptor
