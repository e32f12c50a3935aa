import Exemplar.Token.Beginning

/-!
The operators between operands, and how tightly they bind. The longer of two operators with the same
first mark comes first. Assignments, ranges and conversions bind like operators but are not in the
table, as they have operands of their own kinds.
-/

set_option autoImplicit false
set_option relaxedAutoImplicit false

namespace Exemplar

/-- How tightly operands are bound, from the loosest on. -/
inductive Precedence
  | jump
  | assignment
  | range
  | disjunction
  | conjunction
  | binding
  | comparison
  | bitDisjunction
  | bitDifference
  | bitConjunction
  | shift
  | sum
  | product
  | conversion
  deriving DecidableEq

namespace Precedence

/-- The tightness as a number. -/
def rank : Precedence → Nat
  | jump => 0
  | assignment => 1
  | range => 2
  | disjunction => 3
  | conjunction => 4
  | binding => 5
  | comparison => 6
  | bitDisjunction => 7
  | bitDifference => 8
  | bitConjunction => 9
  | shift => 10
  | sum => 11
  | product => 12
  | conversion => 13

/-- The operators, each with its tightness. -/
def operators : List (String × Precedence) :=
  [("+=", assignment), ("-=", assignment), ("*=", assignment), ("/=", assignment),
    ("%=", assignment), ("^=", assignment), ("&=", assignment), ("|=", assignment),
    ("<<=", assignment), (">>=", assignment), ("&&", conjunction), ("||", disjunction),
    ("<<", shift), (">>", shift), ("==", comparison), ("<=", comparison), ("!=", comparison),
    (">=", comparison), ("+", sum), ("-", sum), ("*", product), ("/", product), ("%", product),
    ("^", bitDifference), ("&", bitConjunction), ("|", bitDisjunction), ("<", comparison),
    (">", comparison)]

/-- The operator that tokens begin with, if there is one. -/
def operator? (tokens : List Token) : Option (String × Precedence) :=
  operators.find? fun operator ↦ Token.isNext tokens (.marks operator.1)

/-- Whether tokens begin with the sign of a plain assignment. -/
def isAssignment (tokens : List Token) : Bool :=
  Token.isNext tokens (.marks "=") && !Token.isNext tokens (.marks "=>")

/-- How tightly the tokens behind an operand bind it. -/
def ofTokens (tokens : List Token) : Precedence :=
  match operator? tokens with
  | some (_, precedence) => precedence
  | none =>
    if isAssignment tokens then assignment
    else if Token.isNext tokens (.marks "..") then range
    else if Token.isNext tokens (.word "as") then conversion
    else jump

end Precedence

end Exemplar
