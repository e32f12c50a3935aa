import Exemplar.Declaration.Basic
import Exemplar.Grammar.Path

/-!
Reading the parameters of declarations and of bounds, which are lifetimes, types and constants. The
bounds of a parameter end where something follows that cannot be a bound.
-/

set_option autoImplicit false
set_option relaxedAutoImplicit false

namespace Exemplar.Grammar

open Reader
open Token (isNext isNextAmong isSecond isThird)

/-- A trait or a lifetime as a bound of a parameter. -/
def parameterBound (g : Grammar) : Reader Unit :=
  discard (g.bound false true)

/-- A lifetime with its bounds. -/
def lifetimeParameter : Reader Unit := do
  take .lifetime
  if ← takeIf (.marks ":") then
    boundsUntil (fun here ↦ here.isEmpty || isNextAmong here [.marks ",", .marks ">"])
      (take .lifetime)

/-- A type with its bounds and its default. -/
def typeParameter (g : Grammar) : Reader Identifier := do
  let name ← identifier
  if ← takeIf (.marks ":") then
    boundsUntil (fun here ↦ here.isEmpty || isNextAmong here [.marks ",", .marks ">", .marks "="])
      g.parameterBound
  if ← takeIf (.marks "=") then discard (g.type true)
  return name

/-- A constant with its type and its default. -/
def constantParameter (g : Grammar) : Reader Unit := do
  take (.word "const")
  let _ ← identifier
  take (.marks ":")
  let _ ← g.type true
  if ← takeIf (.marks "=") then g.constant

/-- A parameter with a name. Where there is none, a list says what can begin it. -/
def namedParameter (g : Grammar) (beginnings : List Beginning) : Reader GenericParameter := do
  let here ← tokens
  if isNext here .lifetime then
    lifetimeParameter
    return .lifetime
  else if isNext here .identifier then return .type (← g.typeParameter)
  else if isNext here (.word "const") then
    g.constantParameter
    return .constant
  else expect beginnings

/-- A parameter of a declaration. The name of a type can be left open. -/
def parameter (g : Grammar) : Reader GenericParameter := do
  let _ ← g.attributes
  if ← sees (.word "_") then return .type (← anyName)
  else g.namedParameter [.lifetime, .identifier, .word "const"]

/-- The parameters of a declaration in angle brackets, if there are brackets. -/
def parameters (g : Grammar) : Reader (List GenericParameter) := do
  if ← takeIf (.marks "<") then
    let parameters ← separatedUntil (isNext · (.marks ">")) (.marks ",") g.parameter
    take (.marks ">")
    return parameters
  else return []

/-- Whether the angle bracket that is next holds parameters, and not a qualified type. -/
def areParameters (here : List Token) : Bool :=
  isNext here (.marks "<") &&
    (isSecond here (.marks ">") || isSecond here (.marks "#") || isSecond here (.word "const") ||
      ((isSecond here .lifetime || isSecond here .identifier) &&
        (isThird here (.marks ">") || isThird here (.marks ",") || isThird here (.marks "=") ||
          (isThird here (.marks ":") && !isThird here (.marks "::")))))

/-- The parameters that a bound or a closure holds for. -/
def binder (g : Grammar) : Reader Unit := do
  take (.word "for")
  take (.marks "<")
  let _ ← separatedUntil (isNext · (.marks ">")) (.marks ",") do
    let _ ← g.attributes
    g.namedParameter [.identifier, .lifetime, .word "const"]
  take (.marks ">")

/-- The parameters that a bound or a closure holds for, if there are some. -/
def binderIf (g : Grammar) : Reader Bool := do
  if ← sees (.word "for") then
    g.binder
    return true
  else return false

/-- Whether the reserved name for loops begins such parameters, and not a loop. -/
def isBinder (here : List Token) : Bool :=
  isNext here (.word "for") && areParameters (Token.afterFirst 1 here)

end Exemplar.Grammar
