import Exemplar.Value.Equality
import Exemplar.Value.Printer

/-!
Three values of one type: red and black are different, and the red copy is equal to red without
being the same reference. A type that is still being resolved has hollow values instead, whose red
copy is red itself, because a hollow value equals nothing else.
-/

set_option autoImplicit false
set_option relaxedAutoImplicit false

namespace Exemplar

/-- Three values of one type. -/
structure Triple where
  red : Value
  black : Value
  redCopy : Value

/-- A triple under a number, which tells it from equal triples made elsewhere. -/
structure SharedTriple where
  number : Nat
  triple : Triple

namespace Triple

/-- The placeholder for the values of a type. -/
def hollow (descriptor : Descriptor) : Fresh Triple := do
  let red ← (Object.hollow descriptor).alloc
  let black ← (Object.hollow descriptor).alloc
  return ⟨red, black, red⟩

/-- The triple of the images of the three values, made in the order red, black, red copy. -/
def map (triple : Triple) (image : Value → Fresh Value) : Fresh Triple := do
  let red ← image triple.red
  let black ← image triple.black
  let redCopy ← image triple.redCopy
  return ⟨red, black, redCopy⟩

/-- Whether red and black differ and the red copy is an equal value behind another reference. -/
def isWellFormed (triple : Triple) : Bool :=
  !triple.red.equal triple.black && triple.redCopy.equal triple.red &&
    !triple.redCopy.sameReference triple.red

/-- Whether two triples are equal color by color. -/
def equal (triple other : Triple) : Bool :=
  triple.red.equal other.red && triple.black.equal other.black &&
    triple.redCopy.equal other.redCopy

/-- The display of a triple. -/
def display (triple : Triple) : String :=
  "red: " ++ triple.red.display ++ ", black: " ++ triple.black.display ++ ", red copy: " ++
    triple.redCopy.display

/-- The triple under a new number. -/
def share (triple : Triple) : Fresh SharedTriple :=
  return ⟨← Fresh.next, triple⟩

end Triple

end Exemplar
