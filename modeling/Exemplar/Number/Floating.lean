import Exemplar.Number.Shortest

/-!
Binary floating-point numbers of single and double width, given by their bits. Two of them are equal
if they are the same number: the two zeros are, and a number that is not a number equals nothing,
itself included. They are displayed by the shortest decimal that reads back.
-/

set_option autoImplicit false
set_option relaxedAutoImplicit false

namespace Exemplar

/-- The widths of floating-point numbers. -/
inductive FloatingKind
  | single
  | double
  deriving DecidableEq

namespace FloatingKind

/-- The name of the type of these numbers. -/
def label : FloatingKind → String
  | single => "f32"
  | double => "f64"

/-- The number of bits. -/
def width : FloatingKind → Nat
  | single => 32
  | double => 64

/-- The number of bits of the fraction. -/
def fractionWidth : FloatingKind → Nat
  | single => 23
  | double => 52

/-- The exponent field of the numbers from one to two. -/
def bias : FloatingKind → Nat
  | single => 127
  | double => 1023

/-- The number of decimal digits that tell all numbers of the kind apart. -/
def digitLimit : FloatingKind → Nat
  | single => 9
  | double => 17

end FloatingKind

/-- A floating-point number by its bits: sign, exponent field and fraction. -/
structure Floating where
  kind : FloatingKind
  bits : Nat
  fits : bits < Nat.pow 2 kind.width
  deriving DecidableEq

namespace Floating

/-- The number with the given bits, if the kind has as many. -/
def ofBits? (kind : FloatingKind) (bits : Nat) : Option Floating :=
  if h : bits < Nat.pow 2 kind.width then some ⟨kind, bits, h⟩ else none

/-- Zero, without a sign. -/
def zero (kind : FloatingKind) : Floating :=
  ⟨kind, 0, by cases kind <;> decide⟩

/-- One. -/
def one (kind : FloatingKind) : Floating :=
  ⟨kind, kind.bias * Nat.pow 2 kind.fractionWidth, by cases kind <;> decide⟩

/-- Two. -/
def two (kind : FloatingKind) : Floating :=
  ⟨kind, (kind.bias + 1) * Nat.pow 2 kind.fractionWidth, by cases kind <;> decide⟩

/-- The fraction field. -/
def fraction (x : Floating) : Nat :=
  x.bits % Nat.pow 2 x.kind.fractionWidth

/-- The exponent field. -/
def exponentField (x : Floating) : Nat :=
  x.bits / Nat.pow 2 x.kind.fractionWidth % (2 * x.kind.bias + 2)

/-- Whether the sign bit is set. -/
def isNegative (x : Floating) : Bool :=
  Nat.pow 2 (x.kind.width - 1) ≤ x.bits

/-- Whether this is one of the two zeros. -/
def isZero (x : Floating) : Bool :=
  x.exponentField = 0 && x.fraction = 0

/-- Whether the exponent field is the one of infinities and of what is not a number. -/
def isSpecial (x : Floating) : Bool :=
  x.exponentField = 2 * x.kind.bias + 1

/-- Whether this is not a number. -/
def isNaN (x : Floating) : Bool :=
  x.isSpecial && x.fraction ≠ 0

/-- Equality of numbers of one kind. -/
def equal (x y : Floating) : Bool :=
  x.kind = y.kind && !x.isNaN && !y.isNaN && (x.bits = y.bits || (x.isZero && y.isZero))

/-- The absolute value of a finite number other than zero, in quarters of its last binary place,
with the interval that rounds to it. The gap below a power of two is half the gap above it, and the
ends round to the number if its last binary digit is even. -/
def roundingInterval (x : Floating) : RoundingInterval :=
  let significand :=
    if x.exponentField = 0 then x.fraction else Nat.pow 2 x.kind.fractionWidth + x.fraction
  let exponent : Int :=
    (max x.exponentField 1 : Nat) - (x.kind.bias + x.kind.fractionWidth + 2 : Nat)
  let scale := Nat.pow 2 exponent.toNat
  let gapBelow := if x.fraction = 0 && 1 < x.exponentField then 1 else 2
  { low := (4 * significand - gapBelow) * scale
    centre := 4 * significand * scale
    high := (4 * significand + 2) * scale
    denominator := Nat.pow 2 (-exponent).toNat
    closed := significand % 2 = 0 }

/-- Which decimals are written out: those whose first digit has an exponent in this range. All
others are written with an exponent. -/
structure WrittenOut where
  lowest : Int
  highest : Int

/-- Numbers are written out from a ten-thousandth up to sixteen digits before the point. -/
def writtenOut : WrittenOut :=
  ⟨-4, 15⟩

/-- A decimal written out, with at least one digit on either side of the point. -/
def writeOut (d : Decimal) : List Char :=
  if d.point ≤ 0 then
    ['0', '.'] ++ List.replicate (-d.point).toNat '0' ++ d.digits
  else if d.digits.length ≤ d.point then
    d.digits ++ List.replicate (d.point.toNat - d.digits.length) '0' ++ ['.', '0']
  else
    d.digits.take d.point.toNat ++ '.' :: d.digits.drop d.point.toNat

/-- A decimal written with an exponent. -/
def writeScientific (d : Decimal) : List Char :=
  let mantissa :=
    match d.digits with
    | [] => []
    | [digit] => [digit]
    | digit :: digits => digit :: '.' :: digits
  mantissa ++ 'e' :: (toString (d.point - 1)).toList

/-- The shortest decimal that reads back, the zeros and the special values by name. -/
def display (x : Floating) : String :=
  let sign := if x.isNegative then ['-'] else []
  if x.isNaN then "NaN"
  else if x.isSpecial then String.ofList (sign ++ ['i', 'n', 'f'])
  else if x.isZero then String.ofList (sign ++ ['0', '.', '0'])
  else
    match x.roundingInterval.shortest? x.kind.digitLimit with
    | none => ""
    | some d =>
      let written :=
        if writtenOut.lowest ≤ d.point - 1 && d.point - 1 ≤ writtenOut.highest then writeOut d
        else writeScientific d
      String.ofList (sign ++ written)

end Floating

end Exemplar
