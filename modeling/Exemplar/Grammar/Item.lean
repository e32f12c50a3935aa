import Exemplar.Grammar.Function

/-!
Reading items, which can stand among the statements of a block: functions, imports, constants,
modules, types, traits and their implementations, and macros. What an item begins with behind its
visibility decides its form, and so it is for the items inside of traits, implementations and
foreign interfaces.
-/

set_option autoImplicit false
set_option relaxedAutoImplicit false

namespace Exemplar.Grammar

open Reader
open Token (isNext isNextAmong isSecond isThird)

/-! ### Parts of items -/

/-- What the call of a macro as an item begins with, apart from its names. -/
def macroBeginnings : List Beginning :=
  [.identifier, .word "self", .word "super", .word "crate", .marks "::"]

/-- A macro as an item. A semicolon follows its arguments unless they are in curly brackets. -/
def macroItem (allowsName : Bool) : Reader Unit := do
  let _ ← namePath
  take (.marks "!")
  if allowsName && isNextAmong (← tokens) [.identifier, .word "try"] then discard anyName
  if (← macroArguments) ≠ .curly then take (.marks ";")

/-- Bounds up to what can end them. They are separated by plus signs, of which the last one can have
no bound behind it. -/
def superBounds (g : Grammar) (allowsConstant : Bool) (ends : List Beginning) : Reader Unit :=
  discard <|
    separatedUntil (isNextAmong · ends) (.marks "+") (discard (g.bound false allowsConstant))

/-- Where the conditions of a type stand: in front of what the type is, behind it, or in either
place. -/
inductive ConditionPlace
  | before
  | behind
  | either
  deriving DecidableEq

/-- A name for a type, or the declaration that there is one. -/
def typeItem (g : Grammar) (allowsDefault : Bool) (place : ConditionPlace) : Reader Unit := do
  let _ ← isUsualVisibility
  if allowsDefault then discard (takeIf (.word "default"))
  take (.word "type")
  let _ ← identifier
  let _ ← g.parameters
  if ← takeIf (.marks ":") then
    g.superBounds true [.word "where", .marks "=", .marks ";"]
  let hasConditions ← sees (.word "where")
  if place ≠ .behind then g.conditionsIf
  if ← takeIf (.marks "=") then discard (g.type true)
  if place = .behind || (place = .either && !hasConditions) then g.conditionsIf
  take (.marks ";")

/-- A constant behind its reserved name. -/
def constantRest (g : Grammar) : Reader Unit := do
  if isNextAmong (← tokens) [.identifier, .word "_"] then
    let _ ← anyName
    let _ ← g.parameters
    take (.marks ":")
    let _ ← g.type true
    if ← takeIf (.marks "=") then discard (g.expression true)
    g.conditionsIf
    take (.marks ";")
  else expect [.identifier, .word "_"]

/-- Items in curly brackets. -/
def itemsWithin (g : Grammar) (item : Reader Unit) : Reader Unit :=
  within .curly do
    g.innerAttributes
    discard (collectUntil List.isEmpty item)

/-! ### Imports -/

/-- What the tree of an import can begin with. -/
def importBeginnings : List Beginning :=
  [.identifier, .word "self", .word "super", .word "crate", .word "try", .marks "*",
    .group .curly]

/-- The tree of an import, at most as deep as given. The trees in curly brackets can be global where
the tree itself is not within another path. -/
def importTreeAtMost : (allowsGlobal : Bool) → Nat → Reader Unit
  | _, 0 => expect importBeginnings
  | allowsGlobal, n + 1 => do
    let here ← tokens
    if isNextAmong here [.identifier, .word "self", .word "super", .word "crate", .word "try"] then
      let _ ← anyName
      if ← takeIf (.marks "::") then importTreeAtMost false n
      else if ← takeIf (.word "as") then
        if isNextAmong (← tokens) [.identifier, .word "_"] then discard anyName
        else rejectHere .missingRenaming
    else if isNext here (.marks "*") then take (.marks "*")
    else if isNext here (.group .curly) then
      within .curly <| discard <| commaSeparated do
        let isGlobal ← if allowsGlobal then takeIf (.marks "::") else pure false
        importTreeAtMost (allowsGlobal && !isGlobal) n
    else expect importBeginnings

/-- An import. -/
def importItem : Reader Unit := do
  let _ ← isUsualVisibility
  take (.word "use")
  let isGlobal ← takeIf (.marks "::")
  importTreeAtMost (!isGlobal) (Token.totalSize (← tokens) + 1)
  take (.marks ";")

/-- An import of a whole library. -/
def libraryItem : Reader Unit := do
  let _ ← isUsualVisibility
  take (.word "extern")
  take (.word "crate")
  let _ ← if ← sees (.word "self") then anyName else identifier
  if ← takeIf (.word "as") then
    let _ ← if ← sees (.word "_") then anyName else identifier
  take (.marks ";")

/-! ### Items inside of items -/

/-- An item of a foreign interface. -/
def foreignItem (g : Grammar) : Reader Unit := do
  let _ ← g.attributes
  let start ← get
  let isUsual ← isUsualVisibility
  let here ← tokens
  set start
  if isNext here (.word "fn") || isSignature here || isSafeSignature here then
    let _ ← isUsualVisibility
    if isSafeSignature (← tokens) then take (.word "safe")
    g.signature
    if ← sees (.group .curly) then g.attributedBlock else take (.marks ";")
  else if isNext here (.word "static") ||
      (isNextAmong here [.word "unsafe", .word "safe"] && isSecond here (.word "static")) then
    let _ ← isUsualVisibility
    if !(← takeIf (.word "unsafe")) then discard (takeIf (.word "safe"))
    take (.word "static")
    let _ ← takeIf (.word "mut")
    let _ ← identifier
    take (.marks ":")
    let _ ← g.type true
    if ← takeIf (.marks "=") then discard (g.expression true)
    take (.marks ";")
  else if isNext here (.word "type") then g.typeItem false .either
  else if isUsual && isNextAmong here macroBeginnings then macroItem false
  else
    moveTo here
    expect ([.word "fn", .word "static", .word "type"] ++ if isUsual then macroBeginnings else [])
where
  /-- Whether the head of a function that is declared safe is next. -/
  isSafeSignature (here : List Token) : Bool :=
    isNext here (.word "safe") && isSignature (Token.afterFirst 1 here)

/-- A foreign interface. -/
def foreignInterface (g : Grammar) : Reader Unit := do
  let _ ← takeIf (.word "unsafe")
  take (.word "extern")
  let _ ← takeIf .quotedText
  g.itemsWithin g.foreignItem

/-- A function of a trait, with or without its block. -/
def traitFunction (g : Grammar) : Reader Unit := do
  g.signature
  if ← sees (.group .curly) then g.attributedBlock
  else if !(← takeIf (.marks ";")) then expect [.group .curly, .marks ";"]

/-- What an item of a trait or of an implementation can begin with. -/
def associatedBeginnings (isUsual : Bool) : List Beginning :=
  [.word "fn", .word "const", .word "type"] ++ if isUsual then macroBeginnings else []

/-- An item of a trait. -/
def traitItem (g : Grammar) : Reader Unit := do
  let _ ← g.attributes
  let isUsual ← isUsualVisibility
  let isDefault ← takeIf (.word "default")
  let isUsual := isUsual && !isDefault
  let here ← tokens
  if isNext here (.word "fn") || isSignature here then g.traitFunction
  else if isNext here (.word "const") then
    take (.word "const")
    let behind ← tokens
    if isNextAmong behind [.identifier, .word "_"] then g.constantRest
    else if isNextAmong behind functionBeginnings then
      moveTo here
      g.traitFunction
    else expect ([.identifier, .word "_"] ++ functionBeginnings)
  else if isNext here (.word "type") then g.typeItem false .behind
  else if isUsual && isNextAmong here macroBeginnings then macroItem false
  else expect (associatedBeginnings isUsual)
where
  /-- What the head of a function can go on with behind the sign of a constant. -/
  functionBeginnings : List Beginning :=
    [.word "async", .word "unsafe", .word "extern", .word "fn"]

/-- A function of an implementation, with or without its block. -/
def implementedFunction (g : Grammar) : Reader Unit := do
  let _ ← isUsualVisibility
  let _ ← takeIf (.word "default")
  g.signature
  if !(← takeIf (.marks ";")) then g.attributedBlock

/-- An item of an implementation. -/
def implementedItem (g : Grammar) : Reader Unit := do
  let _ ← g.attributes
  let start ← get
  let isUsual ← isUsualVisibility
  let here ← tokens
  let isDefault := isNext here (.word "default") && !isSecond here (.marks "!")
  if isDefault then take (.word "default")
  let isUsual := isUsual && !isDefault
  let here ← tokens
  if isNext here (.word "fn") || isSignature here then
    set start
    g.implementedFunction
  else if isNext here (.word "const") then
    take (.word "const")
    g.constantRest
  else if isNext here (.word "type") then
    set start
    g.typeItem true .behind
  else if isUsual && isNextAmong here macroBeginnings then
    set start
    macroItem false
  else expect ((if isDefault then [] else [.word "default"]) ++ associatedBeginnings isUsual)

/-! ### Traits and implementations -/

/-- The bounds, the conditions and the items of a trait. -/
def traitRest (g : Grammar) : Reader Unit := do
  if ← takeIf (.marks ":") then g.superBounds true [.word "where", .group .curly]
  g.conditionsIf
  g.itemsWithin g.traitItem

/-- A trait that is not safe or holds by itself. -/
def markedTrait (g : Grammar) : Reader Unit := do
  let _ ← isUsualVisibility
  let _ ← takeIf (.word "unsafe")
  let _ ← takeIf (.word "auto")
  take (.word "trait")
  let _ ← identifier
  let _ ← g.parameters
  g.traitRest

/-- A trait, or a name for bounds. -/
def plainTrait (g : Grammar) : Reader Unit := do
  let _ ← isUsualVisibility
  take (.word "trait")
  let _ ← identifier
  let _ ← g.parameters
  let here ← tokens
  if isNextAmong here [.group .curly, .marks ":", .word "where"] then g.traitRest
  else if isNext here (.marks "=") then
    take (.marks "=")
    g.superBounds false [.word "where", .marks ";"]
    g.conditionsIf
    take (.marks ";")
  else expect [.group .curly, .marks ":", .word "where", .marks "="]

/-- An implementation, of a trait or of what a type has by itself. -/
def implementationItem (g : Grammar) : Reader Unit := do
  let _ ← isUsualVisibility
  let _ ← takeIf (.word "default")
  let _ ← takeIf (.word "unsafe")
  take (.word "impl")
  if areParameters (← tokens) then discard g.parameters
  let here ← tokens
  if isNext here (.word "const") then take (.word "const")
  else if isNext here (.marks "?") && isSecond here (.word "const") then
    take (.marks "?")
    take (.word "const")
  let here ← tokens
  let isNegative := isNext here (.marks "!") && !isSecond here (.group .curly)
  if isNegative then take (.marks "!")
  let _ ← g.type true
  if ← takeIf (.word "for") then discard (g.type true)
  else if isNegative then reject .negativeInherent
  g.conditionsIf
  g.itemsWithin g.implementedItem

/-! ### Items -/

/-- A static value. -/
def staticItem (g : Grammar) : Reader Unit := do
  let _ ← isUsualVisibility
  take (.word "static")
  let _ ← takeIf (.word "mut")
  let _ ← identifier
  if ← takeIf (.marks "=") then
    let _ ← g.expression true
    take (.marks ";")
  else
    take (.marks ":")
    let _ ← g.type true
    if !(← takeIf (.marks ";")) then
      take (.marks "=")
      let _ ← g.expression true
      take (.marks ";")

/-- A module, with or without its items. -/
def moduleItem (g : Grammar) : Reader Unit := do
  let _ ← isUsualVisibility
  let _ ← takeIf (.word "unsafe")
  take (.word "mod")
  let _ ← if ← sees (.word "try") then anyName else identifier
  if ← sees (.group .curly) then g.itemsWithin g.item
  else if !(← takeIf (.marks ";")) then expect [.marks ";", .group .curly]

/-- A macro that is declared with its rules. -/
def macroDeclaration : Reader Unit := do
  let _ ← isUsualVisibility
  take (.word "macro")
  let _ ← identifier
  let hasInputs ← sees (.group .round)
  if hasInputs then discard (group .round)
  if ← sees (.group .curly) then discard (group .curly)
  else expect (if hasInputs then [.group .curly] else [.group .round, .group .curly])

/-- A function with its block, or its head alone. -/
def functionItem (g : Grammar) : Reader Unit := do
  let _ ← isUsualVisibility
  g.signature
  if !(← takeIf (.marks ";")) then g.attributedBlock

/-- The declaration of a type as an item. -/
def dataItem (g : Grammar) : Reader Unit := do
  let _ ← isUsualVisibility
  discard (g.dataBehind [])

/-- The item that begins with the reserved name for what is foreign. -/
def externalItem (g : Grammar) (here : List Token) : Reader Unit := do
  if isSecond here (.word "crate") then libraryItem
  else if isSecond here (.group .curly) then g.foreignInterface
  else if isSecond here .quotedText then
    if isThird here (.group .curly) then g.foreignInterface
    else
      moveTo (Token.afterFirst 2 here)
      expect [.group .curly]
  else
    moveTo (Token.afterFirst 1 here)
    expect [.word "crate", .group .curly, .quotedText]

/-- The item that begins with the reserved name for what is not checked. -/
def uncheckedItem (g : Grammar) (here : List Token) : Reader Unit := do
  if isSecond here (.word "trait") ||
      (isSecond here (.word "auto") && isThird here (.word "trait")) then
    g.markedTrait
  else if isSecond here (.word "impl") then g.implementationItem
  else if isSecond here (.word "extern") then g.foreignInterface
  else if isSecond here (.word "mod") then g.moduleItem
  else
    moveTo (Token.afterFirst 1 here)
    expect ([.word "trait"] ++ (if isSecond here (.word "auto") then [] else [.word "auto"]) ++
      [.word "impl", .word "extern", .word "mod"])

/-- What items can begin with behind their visibility. -/
def itemBeginnings (isUsual : Bool) (here : List Token) : List Beginning :=
  [.word "fn", .word "extern", .word "use", .word "static", .word "const", .word "unsafe",
    .word "mod", .word "type", .word "struct", .word "enum"] ++
    (if isNext here (.word "union") then [] else [.word "union"]) ++ [.word "trait"] ++
    (if isNext here (.word "auto") then [] else [.word "auto"]) ++ [.word "impl"] ++
    (if isNext here (.word "default") then [] else [.word "default"]) ++ [.word "macro"] ++
    if isUsual then macroBeginnings else []

/-- An item by what it begins with behind its visibility. The item is read with its visibility. -/
def itemReader (g : Grammar) (isUsual : Bool) (here : List Token) : Reader Unit :=
  if isNext here (.word "fn") || isSignature here then g.functionItem
  else if isNext here (.word "extern") then g.externalItem here
  else if isNext here (.word "use") then importItem
  else if isNext here (.word "static") then g.staticItem
  else if isNext here (.word "const") then do
    let _ ← isUsualVisibility
    take (.word "const")
    g.constantRest
  else if isNext here (.word "unsafe") then g.uncheckedItem here
  else if isNext here (.word "mod") then g.moduleItem
  else if isNext here (.word "type") then g.typeItem false .before
  else if isNextAmong here [.word "struct", .word "enum"] then g.dataItem
  else if isNext here (.word "union") && isSecond here .identifier then g.dataItem
  else if isNext here (.word "trait") then g.plainTrait
  else if isNext here (.word "auto") && isSecond here (.word "trait") then g.markedTrait
  else if isNext here (.word "impl") ||
      (isNext here (.word "default") && !isSecond here (.marks "!")) then
    g.implementationItem
  else if isNext here (.word "macro") then macroDeclaration
  else if isUsual && isNextAmong here macroBeginnings then macroItem true
  else do
    moveTo here
    expect (itemBeginnings isUsual here)

/-- An item behind its attributes. -/
def itemBehind (g : Grammar) : Reader Unit := do
  let start ← get
  let isUsual ← isUsualVisibility
  let here ← tokens
  set start
  g.itemReader isUsual here

/-- An item. -/
def itemRule (g : Grammar) : Reader Unit := do
  let _ ← g.attributes
  g.itemBehind

end Exemplar.Grammar
