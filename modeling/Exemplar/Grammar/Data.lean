import Exemplar.Grammar.Condition

/-!
Reading what a declaration declares: the fields of a struct, in curly brackets with names or in
parentheses without, the variants of an enumeration, and the fields of a union. A field or a variant
has its attributes and its visibility in front.
-/

set_option autoImplicit false
set_option relaxedAutoImplicit false

namespace Exemplar.Grammar

open Reader
open Token (isNext isNextAmong isSecond)

/-- The scope in parentheses behind the sign of visibility. Parentheses that hold anything else
belong to the type that follows. -/
def scopeIf : Reader Unit := do
  let position ← get
  let inside ← group .round
  if isNextAmong inside [.word "crate", .word "self", .word "super"] then
    if !(Token.afterFirst 1 inside).isEmpty then set position
  else if isNext inside (.word "in") then
    set position
    within .round do
      take (.word "in")
      discard namePath
  else set position

/-- Reads the visibility, and tells whether it is the usual one, which is not written. -/
def isUsualVisibility : Reader Bool := do
  match ← tokens with
  | .group .hidden [] :: rest => do
    moveTo rest
    return true
  | _ =>
    if ← takeIf (.word "pub") then
      if ← sees (.group .round) then scopeIf
      return false
    else return true

/-- Fields without names in a field that has none itself. -/
def anonymousFields (named : Reader (List DeclaredField)) : Reader FieldType := do
  let _ ← anyName
  let _ ← named
  return .anonymous

/-- Whether fields without names are next. -/
def areAnonymousFields (here : List Token) : Bool :=
  isNext here (.word "struct") || (isNext here (.word "union") && isSecond here (.group .curly))

/-- A field with a name. The name can be left open, and then the type can have fields itself. -/
def namedField (g : Grammar) (nested : Reader (List DeclaredField)) : Reader DeclaredField := do
  let attributes ← g.attributes
  let _ ← isUsualVisibility
  let isOpen ← sees (.word "_")
  let name ← if isOpen then anyName else identifier
  take (.marks ":")
  let type ←
    if isOpen && areAnonymousFields (← tokens) then anonymousFields nested else g.type true
  return ⟨some name, type, attributes⟩

/-- Fields with names in curly brackets, which are nested in one another at most as deep as
given. -/
def namedFieldsAtMost (g : Grammar) : Nat → Reader (List DeclaredField)
  | 0 => expect []
  | n + 1 => within .curly (commaSeparated (g.namedField (g.namedFieldsAtMost n)))

/-- Fields with names in curly brackets. -/
def namedFields (g : Grammar) : Reader (List DeclaredField) := do
  g.namedFieldsAtMost (Token.totalSize (← tokens) + 1)

/-- Fields without names in parentheses. -/
def positionalFields (g : Grammar) : Reader (List DeclaredField) :=
  within .round <| commaSeparated do
    let attributes ← g.attributes
    let _ ← isUsualVisibility
    return ⟨none, ← g.type true, attributes⟩

/-- A variant of an enumeration. -/
def variant (g : Grammar) : Reader Variant := do
  let _ ← g.attributes
  let _ ← isUsualVisibility
  let name ← identifier
  let here ← tokens
  let shape ←
    if isNext here (.group .curly) then do
      let _ ← g.namedFields
      pure .named
    else if isNext here (.group .round) then do
      let _ ← g.positionalFields
      pure .tuple
    else pure .unit
  if ← takeIf (.marks "=") then discard (g.expression true)
  return ⟨name, shape⟩

/-- What can follow the head of a struct with and without conditions. -/
def structBeginnings (hasConditions : Bool) : List Beginning :=
  if hasConditions then [.group .curly, .marks ";"]
  else [.word "where", .group .round, .group .curly, .marks ";"]

/-- The fields of a struct. Conditions stand in front of curly brackets, but behind parentheses. -/
def structBody (g : Grammar) : Reader DeclaredBody := do
  let hasConditions ← sees (.word "where")
  g.conditionsIf
  let here ← tokens
  if !hasConditions && isNext here (.group .round) then
    let fields ← g.positionalFields
    let hasConditions ← sees (.word "where")
    g.conditionsIf
    if ← takeIf (.marks ";") then return .struct fields
    else expect (if hasConditions then [.marks ";"] else [.word "where", .marks ";"])
  else if isNext here (.group .curly) then return .struct (← g.namedFields)
  else if isNext here (.marks ";") then
    take (.marks ";")
    return .struct []
  else expect (structBeginnings hasConditions)

/-- The variants of an enumeration. -/
def enumerationBody (g : Grammar) : Reader DeclaredBody := do
  g.conditionsIf
  return .enumeration (← within .curly (commaSeparated g.variant))

/-- The fields of a union. -/
def unionBody (g : Grammar) : Reader DeclaredBody := do
  g.conditionsIf
  return .union (← g.namedFields)

/-- The name, the parameters and the body behind the reserved name of a declaration. -/
def dataRest (g : Grammar) (attributes : List Attribute) (body : Reader DeclaredBody) :
    Reader Declaration := do
  let name ← identifier
  let generics ← g.parameters
  return ⟨name, generics, attributes, ← body⟩

/-- What the declaration of a type begins with, behind its visibility. -/
def dataBeginnings : List Beginning :=
  [.word "struct", .word "enum", .word "union"]

/-- The declaration of a type, behind its attributes and its visibility. -/
def dataBehind (g : Grammar) (attributes : List Attribute) : Reader Declaration := do
  if ← takeIf (.word "struct") then g.dataRest attributes g.structBody
  else if ← takeIf (.word "enum") then g.dataRest attributes g.enumerationBody
  else if ← takeIf (.word "union") then g.dataRest attributes g.unionBody
  else expect dataBeginnings

/-- The declaration of a type. -/
def data (g : Grammar) : Reader Declaration := do
  let attributes ← g.attributes
  let _ ← isUsualVisibility
  g.dataBehind attributes

end Exemplar.Grammar
