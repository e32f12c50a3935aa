import Exemplar.Grammar.Member
import Exemplar.Grammar.Operation

/-!
Reading patterns. Of a pattern it matters whether it is a range with an open end, as such a range
cannot stand among the elements of a slice without parentheses.
-/

set_option autoImplicit false
set_option relaxedAutoImplicit false

namespace Exemplar.Grammar

open Reader
open Token (isNext isNextAmong isSecond isThird)

/-- What the bounds of a range pattern can begin with. -/
def rangeBoundBeginnings : List Beginning :=
  [.literal, .identifier, .marks "::", .marks "<", .word "self", .word "Self", .word "super",
    .word "crate", .word "const"]

/-- Whether a range pattern has come to its end. -/
def isRangeEnd (here : List Token) : Bool :=
  here.isEmpty || isNextAmong here [.marks "|", .marks "=", .marks ",", .marks ";", .word "if"] ||
    (isNext here (.marks ":") && !isNext here (.marks "::"))

/-- Reads a bound of a range pattern, if there is one, and tells whether there is. -/
def hasRangeBound (g : Grammar) : Reader Bool := do
  let here ← tokens
  if isRangeEnd here then return false
  else
    if isNext here .literal then take .literal
    else if isNext here (.word "const") then
      take (.word "const")
      g.attributedBlock
    else if isNextAmong here rangeBoundBeginnings then discard (g.qualifiedPath true)
    else expect rangeBoundBeginnings
    return true

/-- Reads what follows the lower bound of a range pattern, and tells whether the upper end is
open. -/
def isUpperEndOpen (g : Grammar) : Reader Bool := do
  let isClosed ← isClosedRange true
  let isBounded ← g.hasRangeBound
  if isClosed && !isBounded then rejectHere .missingUpperBound
  else return !isBounded

/-- Whether another pattern follows as an alternative. -/
def isAlternative (here : List Token) : Bool :=
  isNext here (.marks "|") && !isNext here (.marks "||") && !isNext here (.marks "|=")

/-- A pattern and its alternatives, which can have a bar in front. Alternatives are no range. -/
def alternatives (g : Grammar) : Reader Bool := do
  let hasBar ← takeIf (.marks "|")
  let isOpenRange ← g.pattern
  if hasBar || isAlternative (← tokens) then
    repeatWhile do
      if isAlternative (← tokens) then
        take (.marks "|")
        let _ ← g.pattern
        return true
      else return false
    return false
  else return isOpenRange

/-- A field of a structure as a pattern. -/
def fieldPattern (g : Grammar) : Reader Unit := do
  let isBoxed ← takeIf (.word "box")
  let isReference ← takeIf (.word "ref")
  let isChanging ← takeIf (.word "mut")
  if isBoxed || isReference || isChanging then discard identifier
  else
    let isNamed ← isNamedMember
    if !isNamed || (← sees (.marks ":")) then
      take (.marks ":")
      discard g.alternatives

/-- The fields of a structure as a pattern. Two points stand for all further fields. -/
def structPattern (g : Grammar) : Reader Unit :=
  within .curly <| repeatWhile do
    if ← atEnd then return false
    else
      let _ ← g.attributes
      if ← takeIf (.marks "..") then return false
      else
        g.fieldPattern
        if ← atEnd then return false
        else
          take (.marks ",")
          return true

/-- Patterns in parentheses. -/
def tuplePattern (g : Grammar) : Reader Unit :=
  within .round (discard (commaSeparated g.alternatives))

/-- The elements of a slice as patterns. -/
def slicePattern (g : Grammar) : Reader Unit :=
  within .square <| discard <| commaSeparated do
    if ← g.alternatives then reject .openRange

/-- A pattern that begins with a path: a macro, a structure, a range, or the path alone. -/
def pathPattern (g : Grammar) : Reader Bool := do
  let (subject, path) ← g.qualifiedPath true
  let here ← tokens
  if subject.isNone && isMacroCall here && path.hasNamesOnly then
    take (.marks "!")
    let _ ← macroArguments
    return false
  else if isNext here (.group .curly) then
    g.structPattern
    return false
  else if isNext here (.group .round) then
    g.tuplePattern
    return false
  else if isNext here (.marks "..") then g.isUpperEndOpen
  else return false

/-- A pattern that begins with a literal or a constant: a range, or that alone. -/
def literalPattern (g : Grammar) : Reader Bool := do
  let _ ← g.hasRangeBound
  if ← sees (.marks "..") then g.isUpperEndOpen else return false

/-- A name that is bound, perhaps to what another pattern fits. -/
def namePattern (g : Grammar) : Reader Unit := do
  let _ ← takeIf (.word "ref")
  let _ ← takeIf (.word "mut")
  let _ ← if ← sees (.word "self") then anyName else identifier
  if ← takeIf (.marks "@") then discard g.pattern

/-- A range without a lower bound, or two points for what other patterns leave. -/
def lowerOpenPattern (g : Grammar) : Reader Bool := do
  let isClosed ← isClosedRange false
  let isBounded ← g.hasRangeBound
  if isClosed && !isBounded then rejectHere .missingUpperBound
  else return isBounded

/-- Whether a pattern is next that begins with a path. -/
def isPathPattern (here : List Token) : Bool :=
  isNextAmong here [.marks "::", .marks "<", .word "Self", .word "super", .word "crate"] ||
    (isNext here (.word "self") && isSecond here (.marks "::")) ||
    (isNext here .identifier &&
      (isSecond here (.marks "::") || isSecond here (.marks "!") ||
        isSecond here (.group .curly) || isSecond here (.group .round) ||
        isSecond here (.marks "..")))

/-- What patterns can begin with, apart from the sign of a range. -/
def patternBeginnings : List Beginning :=
  [.identifier, .marks "::", .marks "<", .word "_", .literal, .word "const", .word "ref",
    .word "mut", .marks "&", .group .round, .group .square]

/-- A pattern without alternatives, by what it begins with. -/
def patternRule (g : Grammar) : Reader Bool := do
  let here ← tokens
  if isPathPattern here then g.pathPattern
  else if isNext here (.word "_") then
    take (.word "_")
    return false
  else if isNext here (.word "box") then
    take (.word "box")
    let _ ← g.pattern
    return false
  else if isNextAmong here [.marks "-", .literal, .word "const"] then g.literalPattern
  else if isNextAmong here [.word "ref", .word "mut", .word "self", .identifier] then
    g.namePattern
    return false
  else if isNext here (.marks "&") then
    take (.marks "&")
    let _ ← takeIf (.word "mut")
    let _ ← g.pattern
    return false
  else if isNext here (.group .round) then
    g.tuplePattern
    return false
  else if isNext here (.group .square) then
    g.slicePattern
    return false
  else if isNext here (.marks "...") then expect (patternBeginnings ++ [.word "const"])
  else if isNext here (.marks "..") then g.lowerOpenPattern
  else expect (patternBeginnings ++ [.marks "..", .word "const"])

end Exemplar.Grammar
