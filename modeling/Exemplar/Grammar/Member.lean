import Exemplar.Grammar.Path
import Exemplar.Token.Numeral

/-!
Reading members, which are names or positions, and what else can stand behind an expression: calls,
indices and the sign of a question. A number with a point is two positions, as points stand in front
of members too.
-/

set_option autoImplicit false
set_option relaxedAutoImplicit false

namespace Exemplar.Grammar

open Reader
open Token (isNext isNextAmong isSecond isThird)

/-- The number that tokens begin with, and whether it has a minus sign. -/
def numeral? (here : List Token) : Option (Bool × String) :=
  match Token.opened here with
  | .literal (.number written) :: _ => some (false, written)
  | .mark '-' _ :: rest =>
    match Token.opened rest with
    | .literal (.number written) :: _ => some (true, written)
    | _ => none
  | _ => none

/-- Why a number is not a position, if it is not. Positions have 32 bits. -/
def positionFault? (isNegative : Bool) : Numeral → Option Rejection
  | .floating => some .missingInteger
  | .integer value isBare =>
    if !isBare then some .suffixedInteger
    else if isNegative then some .signedInteger
    else if value < Nat.pow 2 32 then none
    else some .largeInteger

/-- Takes a number as positions. The first one is negative if there is a minus sign. -/
def takePositions (isNegative : Bool) (pieces : List (List Char)) : Reader Unit := do
  take .literal
  let faults := pieces.mapIdx fun index piece ↦
    positionFault? (isNegative && index = 0) (Numeral.ofChars piece)
  match faults.findSome? id with
  | none => return ()
  | some rejection => reject rejection

/-- The pieces of a text between its points. -/
def splitAtPoints (piece : List Char) : List Char → List (List Char)
  | [] => [piece.reverse]
  | c :: cs =>
    if c = '.' then piece.reverse :: splitAtPoints [] cs else splitAtPoints (c :: piece) cs

/-- Whether a number is an integer. -/
def isInteger (written : String) : Bool :=
  Numeral.ofChars written.toList ≠ .floating

/-- Reads a member of a structure, and tells whether it is a name and not a position. -/
def isNamedMember : Reader Bool := do
  let here ← tokens
  if isNext here .identifier then
    let _ ← anyName
    return true
  else
    match numeral? here with
    | some (isNegative, written) =>
      if isInteger written then do
        takePositions isNegative [written.toList]
        return false
      else rejectHere .missingMember
    | none => rejectHere .missingMember

/-- Expressions in parentheses, with commas between them. -/
def callArguments (g : Grammar) : Reader Unit :=
  within .round (discard (commaSeparated (g.expression true)))

/-- A member behind a point: a method with its arguments, or a field. -/
def member (g : Grammar) : Reader Unit := do
  if !(← takeIf (.word "await")) then
    let isNamed ← isNamedMember
    if isNamed && (← takeIf (.marks "::")) then
      let _ ← g.bracketedArguments
      g.callArguments
    else if isNamed && (← sees (.group .round)) then g.callArguments

/-- The members behind a point. If a number ends with a point, another member follows. -/
def members (g : Grammar) : Reader Unit := do
  match numeral? (← tokens) with
  | some (isNegative, written) =>
    if isInteger written then g.member
    else
      let pieces := splitAtPoints [] written.toList
      if pieces.getLast? = some [] then
        takePositions isNegative pieces.dropLast
        g.member
      else takePositions isNegative pieces
  | none => g.member

/-- An expression with one more part behind it, if there is one. -/
def trailer (g : Grammar) (form : ExpressionForm) : Reader (Option ExpressionForm) := do
  let here ← tokens
  if isNext here (.group .round) then
    g.callArguments
    return some .plain
  else if isNext here (.marks ".") && !isNext here (.marks "..") && form ≠ .range then
    take (.marks ".")
    g.members
    return some .plain
  else if isNext here (.group .square) then
    let _ ← within .square (g.expression true)
    return some .plain
  else if isNext here (.marks "?") && form ≠ .range then
    take (.marks "?")
    return some .plain
  else return none

/-- An expression with all parts behind it. -/
def trailers (g : Grammar) (form : ExpressionForm) : Reader ExpressionForm := do
  further form (Token.totalSize (← tokens) + 1)
where
  /-- An expression with at most as many parts behind it as given. -/
  further (form : ExpressionForm) : Nat → Reader ExpressionForm
    | 0 => return form
    | n + 1 => do
      match ← g.trailer form with
      | none => return form
      | some longer => further longer n

end Exemplar.Grammar
