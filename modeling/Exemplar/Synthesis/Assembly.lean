import Exemplar.Storage.Blank
import Exemplar.Synthesis.Resolution

/-!
Values of a type assembled from its layout, without a factory and without any constructor of the
type. An enumeration gives its first two constants. Any other type with storage gives three records
whose slots are written one by one with the colors of the fields' types. The red copy is written
with the red values.
-/

set_option autoImplicit false
set_option relaxedAutoImplicit false

namespace Exemplar

/-- Three records of one type that are filled together. -/
structure BlankTriple where
  red : Blank
  black : Blank
  redCopy : Blank

namespace BlankTriple

/-- The blanks with the slot at a position written with the colors of a type. -/
def setSlot (blanks : BlankTriple) (position : Nat) (triple : Triple) :
    Except Fault BlankTriple := do
  let red ← blanks.red.setSlot position triple.red
  let black ← blanks.black.setSlot position triple.black
  let redCopy ← blanks.redCopy.setSlot position triple.red
  return ⟨red, black, redCopy⟩

/-- The three records, each behind a new reference. -/
def freeze (blanks : BlankTriple) : Fresh Triple := do
  let red ← blanks.red.freeze
  let black ← blanks.black.freeze
  let redCopy ← blanks.redCopy.freeze
  return ⟨red, black, redCopy⟩

end BlankTriple

namespace Assembly

/-- The first constant of an enumeration is red and the second one black. A single constant is both
colors. -/
def fromConstants (layout : Layout) (constants : List Constant) (d : Descriptor) :
    Except Fault Triple :=
  match constants with
  | [] => .error (.cannotSynthesize d.display .noConstants)
  | [only] =>
    .ok ⟨layout.constantValue only, layout.constantValue only, layout.constantValue only⟩
  | first :: second :: _ =>
    .ok ⟨layout.constantValue first, layout.constantValue second, layout.constantValue first⟩

/-- Writes the slots from a position on with the colors of the fields' types. Slots go by position
because a type may redeclare an inherited field, and both slots need a value. -/
def fill (request : Request) (blanks : BlankTriple) (position : Nat) :
    List Field → Resolution BlankTriple
  | [] => pure blanks
  | field :: fields => do
    let shared ← request field.type
    let written ← Resolution.ofExcept (blanks.setSlot position shared.triple)
    fill request written (position + 1) fields

/-- The values of a type by its layout. -/
def create (request : Request) (catalog : Catalog) (d : Descriptor) : Resolution Triple :=
  match catalog.layout? d.identity with
  | none => throw (.fault (.cannotSynthesize d.display .noFactoryOrLayout))
  | some layout =>
    match layout.kind with
    | .enumeration constants => Resolution.ofExcept (fromConstants layout constants d)
    | _ => do
      let blank ← Resolution.ofExcept (Blank.allocate catalog d)
      let fields ← Resolution.ofExcept (catalog.fields d)
      let blanks ← fill request ⟨blank, blank, blank⟩ 0 fields
      Resolution.ofFresh blanks.freeze

end Assembly

end Exemplar
