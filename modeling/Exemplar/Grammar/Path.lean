import Exemplar.Grammar.Attribute

/-!
Reading paths. In an expression the arguments of a segment need a double colon in front, as an angle
bracket could also compare. The names of the modules around a declaration have no arguments.
-/

set_option autoImplicit false
set_option relaxedAutoImplicit false

namespace Exemplar

/-- A path, and whether it is global. -/
structure FieldPath where
  isGlobal : Bool
  leading : List Segment
  last : Segment

/-- Whether a segment is a name alone. -/
def Segment.isPlain : Segment → Bool
  | plain _ => true
  | angled _ _ | callable _ _ => false

/-- Whether a segment has no arguments, with or without brackets for them. -/
def Segment.isEmpty : Segment → Bool
  | plain _ => true
  | angled _ arguments => arguments.isEmpty
  | callable _ _ => false

namespace FieldPath

/-- The type that a path names. -/
def toType (path : FieldPath) : FieldType :=
  .path path.isGlobal path.leading path.last

/-- Whether all segments are names alone. -/
def hasNamesOnly (path : FieldPath) : Bool :=
  path.leading.all Segment.isPlain && path.last.isPlain

/-- The path of a segment and of further ones. -/
def ofSegments (isGlobal : Bool) (first : Segment) (others : List Segment) : FieldPath :=
  ⟨isGlobal, (first :: others).dropLast, others.getLastD first⟩

end FieldPath

namespace Grammar

open Reader
open Token (isNext isNextAmong isSecond isThird)

/-- A constant as an argument or as a default: a literal, a name or a block. -/
def constant (g : Grammar) : Reader Unit := do
  let here ← tokens
  if isNext here .literal then take .literal
  else if isNext here .identifier then discard anyName
  else if isNext here (.group .curly) then g.attributedBlock
  else expect []

/-- Whether a constant is next, as an argument. A name alone is a type there. -/
def isConstant (here : List Token) : Bool :=
  isNextAmong here [.literal, .group .curly]

/-- Bounds with plus signs between them, up to what can end them. -/
def boundsUntil (isEnd : List Token → Bool) (bound : Reader Unit) : Reader Unit :=
  repeatWhile do
    if isEnd (← tokens) then return false
    else
      bound
      takeIf (.marks "+")

/-- The name of a segment that an argument can be associated with. -/
def associable? : FieldType → Option Identifier
  | .path false [] (.plain name) => some name
  | .path false [] (.angled name _) => some name
  | _ => none

/-- An argument in angle brackets. A lifetime with a plus sign behind it begins a type. -/
def angledArgument (g : Grammar) : Reader TypeArgument := do
  let here ← tokens
  if isNext here .lifetime && !isSecond here (.marks "+") then
    take .lifetime
    return .lifetime
  else if isConstant here then
    g.constant
    return .constant
  else
    let type ← g.type true
    match associable? type with
    | none => return .type type
    | some name =>
      if ← takeIf (.marks "=") then
        if isConstant (← tokens) then
          g.constant
          return .constant
        else return .associated name (← g.type true)
      else if ← takeIf (.marks ":") then
        boundsUntil (isNextAmong · [.marks ",", .marks ">"]) (discard (g.bound false true))
        return .constrained name
      else return .type type

/-- Arguments in angle brackets. -/
def bracketedArguments (g : Grammar) : Reader (List TypeArgument) := do
  take (.marks "<")
  let arguments ← separatedUntil (isNext · (.marks ">")) (.marks ",") g.angledArgument
  take (.marks ">")
  return arguments

/-- Arguments in angle brackets, with or without a double colon in front. -/
def angledArguments (g : Grammar) : Reader (List TypeArgument) := do
  let _ ← takeIf (.marks "::")
  g.bracketedArguments

/-- Whether a segment that was just read has arguments. -/
def hasArguments (inExpression : Bool) (here : List Token) : Bool :=
  (!inExpression && isNext here (.marks "<") && !isNext here (.marks "<=")) ||
    (isNext here (.marks "::") && isThird here (.marks "<"))

/-- A segment of a path. -/
def segment (g : Grammar) (inExpression : Bool) : Reader Segment := do
  let here ← tokens
  if isNextAmong here [.word "super", .word "self", .word "crate", .word "try"] then
    return .plain (← anyName)
  else
    let name ← if isNext here (.word "Self") then anyName else identifier
    if hasArguments inExpression (← tokens) then return .angled name (← g.angledArguments)
    else return .plain name

/-- The segments behind the first one of a path. A double colon in front of parentheses does not
belong to the path. -/
def furtherSegments (g : Grammar) (inExpression : Bool) : Reader (List Segment) :=
  collect do
    let here ← tokens
    if isNext here (.marks "::") && !isThird here (.group .round) then
      take (.marks "::")
      return some (← g.segment inExpression)
    else return none

/-- A path. -/
def path (g : Grammar) (inExpression : Bool) : Reader FieldPath := do
  let isGlobal ← takeIf (.marks "::")
  let first ← g.segment inExpression
  return .ofSegments isGlobal first (← g.furtherSegments inExpression)

/-- A path, or a type in angle brackets with a path behind it. The trait that the path belongs to
can stand within the brackets. -/
def qualifiedPath (g : Grammar) (inExpression : Bool) :
    Reader (Option FieldType × FieldPath) := do
  if ← takeIf (.marks "<") then
    let subject ← g.type true
    let trait ←
      if ← takeIf (.word "as") then do pure (some (← g.path false)) else pure none
    take (.marks ">")
    take (.marks "::")
    let first ← g.segment inExpression
    let others ← collect do
      if ← takeIf (.marks "::") then return some (← g.segment inExpression) else return none
    match trait with
    | none => return (some subject, .ofSegments true first others)
    | some path =>
      let others := path.last :: first :: others
      return (some subject, ⟨path.isGlobal, path.leading ++ others.dropLast, others.getLastD first⟩)
  else return (none, ← g.path inExpression)

/-- What a macro is given, in brackets of any kind that can be seen. -/
def macroArguments : Reader Bracket := do
  match ← tokens with
  | .group .hidden _ :: _ => rejectHere .missingDelimiter
  | .group bracket _ :: rest => do
    moveTo rest
    return bracket
  | _ => rejectHere .missingDelimiter

/-- Whether a macro is called by the name that was just read. -/
def isMacroCall (here : List Token) : Bool :=
  isNext here (.marks "!") && !isNext here (.marks "!=")

/-- The type behind an arrow, if there is an arrow. -/
def result (g : Grammar) (allowsPlus : Bool) : Reader Unit := do
  if ← takeIf (.marks "->") then discard (g.type allowsPlus)

end Grammar

end Exemplar
