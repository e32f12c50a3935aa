import Exemplar.Grammar.Parameter

/-!
Reading the conditions of a declaration on its parameters: bounds of lifetimes and of types. A
condition ends where the body of the declaration can begin.
-/

set_option autoImplicit false
set_option relaxedAutoImplicit false

namespace Exemplar.Grammar

open Reader
open Token (isNext isNextAmong isSecond)

/-- Whether the conditions of a declaration, or the bounds in one, have come to their end. -/
def isConditionEnd (here : List Token) : Bool :=
  here.isEmpty ||
    isNextAmong here [.group .curly, .marks ",", .marks ";", .marks "="] ||
    (isNext here (.marks ":") && !isNext here (.marks "::"))

/-- Whether the bounds of a lifetime have come to their end. -/
def isLifetimeConditionEnd (here : List Token) : Bool :=
  isConditionEnd here || isNext here (.marks ":")

/-- A condition on a lifetime or a type. -/
def condition (g : Grammar) : Reader Unit := do
  let here ← tokens
  if isNext here .lifetime && isSecond here (.marks ":") then
    take .lifetime
    take (.marks ":")
    boundsUntil isLifetimeConditionEnd (take .lifetime)
  else
    let _ ← g.binderIf
    let _ ← g.type true
    take (.marks ":")
    boundsUntil isConditionEnd g.parameterBound

/-- The conditions on parameters, if there are some. -/
def conditionsIf (g : Grammar) : Reader Unit := do
  if ← takeIf (.word "where") then
    if areParameters (← tokens) then reject .parametersOfWhere
    else repeatWhile do
      if isConditionEnd (← tokens) then return false
      else
        g.condition
        takeIf (.marks ",")

end Exemplar.Grammar
