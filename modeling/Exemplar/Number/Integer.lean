/-!
Integers of a fixed width, signed or not. A number of a kind lies between the lowest and the highest
number of that kind, so equal numbers of different kinds are different integers.
-/

set_option autoImplicit false
set_option relaxedAutoImplicit false

namespace Exemplar

/-- The widths of integers. Those named for their size have the width of an address. -/
inductive IntegerKind
  | i8
  | i16
  | i32
  | i64
  | i128
  | isize
  | u8
  | u16
  | u32
  | u64
  | u128
  | usize
  deriving DecidableEq

namespace IntegerKind

/-- All kinds, the signed ones first. -/
def all : List IntegerKind :=
  [i8, i16, i32, i64, i128, isize, u8, u16, u32, u64, u128, usize]

/-- The name of the type of these integers. -/
def label : IntegerKind → String
  | i8 => "i8"
  | i16 => "i16"
  | i32 => "i32"
  | i64 => "i64"
  | i128 => "i128"
  | isize => "isize"
  | u8 => "u8"
  | u16 => "u16"
  | u32 => "u32"
  | u64 => "u64"
  | u128 => "u128"
  | usize => "usize"

/-- The number of bits. -/
def width : IntegerKind → Nat
  | i8 | u8 => 8
  | i16 | u16 => 16
  | i32 | u32 => 32
  | i64 | u64 | isize | usize => 64
  | i128 | u128 => 128

/-- Whether there are negative integers of the kind. -/
def isSigned : IntegerKind → Bool
  | i8 | i16 | i32 | i64 | i128 | isize => true
  | u8 | u16 | u32 | u64 | u128 | usize => false

/-- The lowest integer of the kind. -/
def lowest (kind : IntegerKind) : Int :=
  if kind.isSigned then -(Nat.pow 2 (kind.width - 1) : Nat) else 0

/-- The highest integer of the kind. -/
def highest (kind : IntegerKind) : Int :=
  (Nat.pow 2 (if kind.isSigned then kind.width - 1 else kind.width) : Nat) - 1

/-- Small numbers are integers of every kind. -/
theorem mem_range_of_le_two (kind : IntegerKind) {n : Nat} (hn : n ≤ 2) :
    kind.lowest ≤ n ∧ (n : Int) ≤ kind.highest := by
  have hbounds : kind.lowest ≤ 0 ∧ 2 ≤ kind.highest := by cases kind <;> decide
  omega

end IntegerKind

/-- An integer of some kind. -/
structure Integer where
  kind : IntegerKind
  value : Int
  inRange : kind.lowest ≤ value ∧ value ≤ kind.highest
  deriving DecidableEq

namespace Integer

/-- The integer of a kind with the given value, if the kind has it. -/
def ofInt? (kind : IntegerKind) (value : Int) : Option Integer :=
  if h : kind.lowest ≤ value ∧ value ≤ kind.highest then some ⟨kind, value, h⟩ else none

/-- The integer of a kind that is zero, one or two. -/
def ofSmall (kind : IntegerKind) (n : Nat) (hn : n ≤ 2) : Integer :=
  ⟨kind, n, kind.mem_range_of_le_two hn⟩

/-- The decimal digits, behind a minus sign for a negative number. -/
def display (n : Integer) : String :=
  toString n.value

end Integer

end Exemplar
