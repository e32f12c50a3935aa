import Exemplar.Grammar.Parameter

/-!
Reading bounds. A bound is a lifetime or a trait, which can have inputs in parentheses behind its
path, and it can stand in parentheses itself. Whether a bound is a trait matters where at least one
of several must be.
-/

set_option autoImplicit false
set_option relaxedAutoImplicit false

namespace Exemplar.Grammar

open Reader
open Token (isNext isNextAmong isSecond isThird)

/-- The parameters that a type captures. -/
def captured : Reader Unit := do
  take (.word "use")
  take (.marks "<")
  repeatWhile do
    let here ← tokens
    if isNextAmong here [.lifetime, .identifier, .word "Self"] then
      if isNext here .lifetime then take .lifetime else discard anyName
      if ← takeIf (.marks ",") then return true
      else if ← sees (.marks ">") then return false
      else expect [.marks ",", .marks ">"]
    else if isNext here (.marks ">") then return false
    else expect [.lifetime, .identifier, .marks ">"]
  take (.marks ">")

/-- Inputs in parentheses, and the type behind them. -/
def callableInputs (g : Grammar) : Reader Unit :=
  enclosed .round (commaSeparated (g.type true)) fun _ ↦ g.result false

/-- The sign of a constant trait, if there is one. -/
def constantSign (allowsConstant : Bool) : Reader Unit := do
  let here ← tokens
  if isNext here (.group .square) then
    within .square (take (.word "const"))
    if !allowsConstant then reject .conditionalConstant
  else if isNext here (.word "const") then
    take (.word "const")
    if !allowsConstant then reject .constant

/-- A trait as a bound. -/
def traitBound (g : Grammar) (allowsConstant : Bool) : Reader Unit := do
  let isBoundBefore ← g.binderIf
  constantSign allowsConstant
  let isRelaxed ← takeIf (.marks "?")
  let isBound ← if isRelaxed && !isBoundBefore then g.binderIf else pure isBoundBefore
  let path ← g.path false
  let here ← tokens
  if path.last.isEmpty then
    if isNext here (.group .round) then g.callableInputs
    else if isNext here (.marks "::") && isThird here (.group .round) then
      take (.marks "::")
      g.callableInputs
  if isBound && isRelaxed then reject .binderWithPolarity

/-- A bound, and whether it is a trait. -/
def boundRule (g : Grammar) (allowsCapture allowsConstant : Bool) : Reader Bool := do
  let here ← tokens
  if isNext here .lifetime then
    take .lifetime
    return false
  else if isNext here (.word "use") then
    captured
    if allowsCapture then return false else reject .capture
  else if isNext here (.group .round) then
    within .round (g.traitBound allowsConstant)
    return true
  else
    g.traitBound allowsConstant
    return true

/-- Whether a bound can follow a plus sign. -/
def isBoundStart (allowsConstant : Bool) (here : List Token) : Bool :=
  isNextAmong here [.anyName, .marks "::", .marks "?", .lifetime, .group .round] ||
    (allowsConstant && isNext here (.group .square))

/-- Bounds with plus signs between them, and for each whether it is a trait. -/
def bounds (g : Grammar) (allowsPlus allowsCapture allowsConstant : Bool) : Reader (List Bool) := do
  let first ← g.bound allowsCapture allowsConstant
  let others ← collect do
    if allowsPlus && (← sees (.marks "+")) then
      take (.marks "+")
      if isBoundStart allowsConstant (← tokens) then
        return some (← g.bound allowsCapture allowsConstant)
      else return none
    else return none
  return first :: others

/-- Bounds that each follow a plus sign, as many as there are plus signs. -/
def addedBounds (g : Grammar) : Reader Unit :=
  repeatWhile do
    if ← takeIf (.marks "+") then
      let _ ← g.bound false false
      return true
    else return false

end Exemplar.Grammar
