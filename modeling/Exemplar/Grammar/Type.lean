import Exemplar.Grammar.Bound

/-!
Reading types. What a type begins with decides its form, except for parentheses, which can hold a
type, the components of a tuple, or the first of several bounds. Where further bounds can follow, a
path with a plus sign behind it is the first bound of a trait object.
-/

set_option autoImplicit false
set_option relaxedAutoImplicit false

namespace Exemplar.Grammar

open Reader
open Token (isNext isNextAmong isSecond isThird)

/-- What types can begin with. -/
def typeBeginnings : List Beginning :=
  [.word "for", .group .round, .word "fn", .word "unsafe", .word "extern", .identifier, .marks "::",
    .marks "<", .word "dyn", .group .square, .marks "*", .marks "&", .marks "!", .word "impl",
    .word "_", .lifetime]

/-- What types can begin with behind the lifetimes that they hold for. -/
def boundTypeBeginnings : List Beginning :=
  [.identifier, .word "fn", .word "unsafe", .word "extern", .word "super", .word "self",
    .word "Self", .word "crate"]

/-- Whether a path is next, as a type. -/
def isPathType (here : List Token) : Bool :=
  isNextAmong here [.identifier, .word "super", .word "self", .word "Self", .word "crate",
    .marks "::", .marks "<"]

/-- Takes the name of a binary interface, if there is one. -/
def interfaceIf : Reader Unit := do
  if ← takeIf (.word "extern") then discard (takeIf .quotedText)

/-- The bounds of a trait object, of which at least one is a trait. -/
def traitObjectBounds (g : Grammar) (allowsPlus : Bool) : Reader Unit := do
  let areTraits ← g.bounds allowsPlus false false
  if !areTraits.any id then reject .missingTrait

/-- A trait object. -/
def traitObject (g : Grammar) (allowsPlus : Bool) : Reader FieldType := do
  g.traitObjectBounds allowsPlus
  return .traitObject false

/-- A type that is known by its traits only. -/
def implementation (g : Grammar) (allowsPlus : Bool) : Reader FieldType := do
  take (.word "impl")
  let areTraits ← g.bounds allowsPlus true true
  if areTraits.any id then return .implementation else reject .missingImplementedTrait

/-- Whether a name and a colon are next, in front of the type of an input. -/
def isNamedInput (isFirst : Bool) (here : List Token) : Bool :=
  (isNextAmong here [.identifier, .word "_"] || (isFirst && isNext here (.word "self"))) &&
    isSecond here (.marks ":") && !isSecond here (.marks "::")

/-- Whether an instance that can change is next, as the first input. -/
def isChangingInstance (here : List Token) : Bool :=
  isNext here (.word "mut") && isSecond here (.word "self")

/-- The type of an input that is the instance itself. -/
def instanceType : Reader FieldType := do
  if ← sees (.word "self") then return .path false [] (.plain (← anyName))
  else expect [.word "self"]

/-- An input of a function type. The instance can be the first one. -/
def functionInput (g : Grammar) (isFirst : Bool) : Reader FieldType := do
  let isChanging := isFirst && isChangingInstance (← tokens)
  if isChanging then take (.word "mut")
  let here ← tokens
  let isNamed := isNamedInput isFirst here
  let isInstance := isNamed && !isNextAmong here [.identifier, .word "_"]
  if isNamed then
    let _ ← anyName
    take (.marks ":")
  if isFirst && !isInstance && isChangingInstance (← tokens) then
    take (.word "mut")
    instanceType
  else if isChanging && !isNamed then instanceType
  else g.type true

/-- Whether the sign for further inputs is next, with or without a name. -/
def isFurtherInputs (here : List Token) : Bool :=
  isNext here (.marks "...") ||
    (isNextAmong here [.identifier, .word "_"] && isSecond here (.marks ":") &&
      isThird here (.marks "..."))

/-- The sign for further inputs. -/
def furtherInputs : Reader Unit := do
  if isNextAmong (← tokens) [.identifier, .word "_"] then
    let _ ← anyName
    take (.marks ":")
  take (.marks "...")
  let _ ← takeIf (.marks ",")

/-- The inputs of a function type, at most as many as given. -/
def functionInputsAtMost (g : Grammar) : (isFirst : Bool) → Nat → Reader (List FieldType)
  | _, 0 => return []
  | isFirst, n + 1 => do
    if ← atEnd then return []
    else
      let _ ← g.attributes
      if isFurtherInputs (← tokens) then
        furtherInputs
        return []
      else
        let input ← g.functionInput isFirst
        if ← atEnd then return [input]
        else
          take (.marks ",")
          return input :: (← g.functionInputsAtMost false n)

/-- The type of a function. -/
def functionType (g : Grammar) : Reader FieldType := do
  let _ ← g.binderIf
  let _ ← takeIf (.word "unsafe")
  interfaceIf
  take (.word "fn")
  let inputs := do g.functionInputsAtMost true (Token.totalSize (← tokens) + 1)
  enclosed .round inputs fun inputs ↦ do
    g.result false
    return .function inputs

/-- The type of a raw pointer. -/
def pointerType (g : Grammar) : Reader FieldType := do
  take (.marks "*")
  if !(← takeIf (.word "const")) then
    if !(← takeIf (.word "mut")) then expect [.word "const", .word "mut"]
  return .pointer (← g.type false)

/-- The type of a reference. -/
def referenceType (g : Grammar) : Reader FieldType := do
  take (.marks "&")
  let _ ← takeIf .lifetime
  let _ ← takeIf (.word "mut")
  return .reference (← g.type false)

/-- An array or a slice. -/
def bracketedType (g : Grammar) : Reader FieldType :=
  within .square do
    let element ← g.type true
    if ← takeIf (.marks ";") then
      let _ ← g.expression true
      return .array element
    else return .slice element

/-- What stands in the parentheses of a type: nothing, a trait object, a bound, several types, or
one type. -/
inductive Parenthesized
  | complete (type : FieldType)
  | relaxedBound
  | one (type : FieldType)

/-- What stands in the parentheses of a type. -/
def parenthesizedInside (g : Grammar) : Reader Parenthesized := do
  let here ← tokens
  if here.isEmpty then return .complete (.tuple [])
  else if isNext here .lifetime then
    return .complete (.parenthesized (← g.traitObject true))
  else if isNext here (.marks "?") then
    g.traitBound false
    return .relaxedBound
  else
    let first ← g.type true
    if ← takeIf (.marks ",") then
      return .complete (.tuple (first :: (← commaSeparated (g.type true))))
    else return .one first

/-- Whether further bounds can be added to a type in parentheses. -/
def isAddable : FieldType → Bool
  | .path _ _ _ => true
  | .traitObject isLone => isLone
  | _ => false

/-- A type that begins with parentheses. -/
def parenthesizedType (g : Grammar) (allowsPlus : Bool) : Reader FieldType :=
  enclosed .round g.parenthesizedInside fun
    | .complete type => return type
    | .relaxedBound => do
      let isLone := !(← sees (.marks "+"))
      g.addedBounds
      return .traitObject isLone
    | .one type => do
      if allowsPlus && (← sees (.marks "+")) && isAddable type then
        g.addedBounds
        return .traitObject false
      else return .parenthesized type

/-- The bounds that follow the first one of a trait object, which is a path. The last plus sign can
have no bound behind it. -/
def furtherBounds (g : Grammar) : Reader Unit :=
  repeatWhile do
    if ← takeIf (.marks "+") then
      if isBoundStart false (← tokens) then
        let _ ← g.bound false false
        return true
      else return false
    else return false

/-- A type that begins with a path. -/
def pathType (g : Grammar) (isBound allowsPlus : Bool) : Reader FieldType := do
  match ← g.qualifiedPath false with
  | (some subject, path) => return .projection subject path.leading path.last
  | (none, path) =>
    let here ← tokens
    if isMacroCall here && path.hasNamesOnly then
      take (.marks "!")
      let _ ← macroArguments
      return .macroCall
    else if allowsPlus && isNext here (.marks "+") then
      g.furtherBounds
      return .traitObject false
    else if isBound then return .traitObject true
    else return path.toType

/-- A type by what it begins with. -/
def typeRule (g : Grammar) (allowsPlus : Bool) : Reader FieldType := do
  if ← sees (.group .hidden) then return .group (← within .hidden (g.type true))
  else
    let isBound ← g.binderIf
    let here ← tokens
    if isBound && !isNextAmong here boundTypeBeginnings then expect boundTypeBeginnings
    else if isNext here (.group .round) then g.parenthesizedType allowsPlus
    else if isNextAmong here [.word "fn", .word "unsafe", .word "extern"] then g.functionType
    else if isPathType here then g.pathType isBound allowsPlus
    else if isNext here (.word "dyn") then
      take (.word "dyn")
      let _ ← takeIf (.marks "*")
      g.traitObject allowsPlus
    else if isNext here (.group .square) then g.bracketedType
    else if isNext here (.marks "*") then g.pointerType
    else if isNext here (.marks "&") then g.referenceType
    else if isNext here (.marks "!") then
      take (.marks "!")
      return .never
    else if isNext here (.word "impl") then g.implementation allowsPlus
    else if isNext here (.word "_") then
      take (.word "_")
      return .inferred
    else if isNext here .lifetime then g.traitObject true
    else expect typeBeginnings

end Exemplar.Grammar
