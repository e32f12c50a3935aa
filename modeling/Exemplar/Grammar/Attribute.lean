import Exemplar.Declaration.Attribute
import Exemplar.Grammar.Basic

/-!
Reading attributes. The path of an attribute has names alone, and what stands behind it is a group,
a value behind an equals sign, or nothing. Longer marks that begin with an equals sign do not stand
in front of a value.
-/

set_option autoImplicit false
set_option relaxedAutoImplicit false

namespace Exemplar.Grammar

open Reader
open Token (isNext isNextAmong isSecond)

/-- What the segments of a path can begin with. -/
def pathNames : List Beginning :=
  [.identifier, .word "super", .word "self", .word "Self", .word "crate"]

/-- The names of a path without arguments, at most as many as given, and whether a double colon is
behind the last one. -/
def namesAtMost : Nat → Reader (List String × Bool)
  | 0 => return ([], false)
  | n + 1 => do
    if isNextAmong (← tokens) pathNames then
      let name ← anyName
      if ← takeIf (.marks "::") then
        let (names, isOpen) ← namesAtMost n
        return (name.text :: names, isOpen)
      else return ([name.text], false)
    else return ([], true)

/-- A path of names alone. -/
def namePath : Reader TokenPath := do
  let isGlobal ← takeIf (.marks "::")
  let (names, isOpen) ← namesAtMost (Token.totalSize (← tokens) + 1)
  if names.isEmpty then
    let name ← identifier
    return ⟨isGlobal, [name.text]⟩
  else if isOpen then rejectHere .missingPathSegment
  else return ⟨isGlobal, names⟩

/-- The path of an attribute. The reserved name for what is not checked can stand alone. -/
def attributePath : Reader TokenPath := do
  if ← takeIf (.word "unsafe") then return ⟨false, ["unsafe"]⟩ else namePath

/-- Whether a value is next, behind its equals sign. -/
def isValue (here : List Token) : Bool :=
  isNext here (.marks "=") && !isNext here (.marks "==") && !isNext here (.marks "=>")

/-- An attribute without its brackets. -/
def attributeInside (g : Grammar) : Reader Attribute := do
  let path ← attributePath
  let here ← tokens
  match Token.opened here with
  | .group _ inside :: rest => do
    moveTo rest
    return ⟨path, .group inside⟩
  | _ =>
    if isValue here then do
      take (.marks "=")
      let value ← tokens
      if isNext value (.marks "#") && isSecond value (.group .square) then
        reject .attributeAsValue
      else
        let _ ← g.expression true
        return ⟨path, .value⟩
    else return ⟨path, .absent⟩

/-- An attribute in front of what it belongs to. -/
def outerAttribute (g : Grammar) : Reader Attribute := do
  take (.marks "#")
  within .square g.attributeInside

/-- The attributes in front of what they belong to. -/
def attributes (g : Grammar) : Reader (List Attribute) :=
  collectUntil (fun here ↦ !isNext here (.marks "#")) g.outerAttribute

/-- The attributes at the beginning of the block that they belong to. -/
def innerAttributes (g : Grammar) : Reader Unit :=
  repeatWhile do
    let here ← tokens
    if isNext here (.marks "#") && isSecond here (.marks "!") then
      take (.marks "#")
      take (.marks "!")
      let _ ← within .square g.attributeInside
      return true
    else return false

/-- The statements of a block, in curly brackets. -/
def block (g : Grammar) : Reader Unit :=
  within .curly g.statements

/-- The statements of a block that can have attributes of its own. -/
def attributedBlock (g : Grammar) : Reader Unit :=
  within .curly do
    g.innerAttributes
    g.statements

end Exemplar.Grammar
