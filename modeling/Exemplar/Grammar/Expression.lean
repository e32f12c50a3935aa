import Exemplar.Grammar.Parameter
import Exemplar.Grammar.Pattern

/-!
Reading expressions. An operand is an atom with signs in front of it and with members, calls and
indices behind it. Where statements are read, an expression that ends with a block is complete
unless a member follows it.
-/

set_option autoImplicit false
set_option relaxedAutoImplicit false

namespace Exemplar.Grammar

open Reader
open Token (isNext isNextAmong isSecond isThird)

/-- Whether an expression is next. -/
def isExpressionStart (here : List Token) : Bool :=
  (isNext here .anyName && !isNext here (.word "as")) ||
    isNextAmong here [.group .round, .group .square, .group .curly, .literal, .marks "..",
      .marks "::", .lifetime, .marks "#"] ||
    (isNext here (.marks "!") && !isNext here (.marks "!=")) ||
    (isNext here (.marks "-") && !isNextAmong here [.marks "-=", .marks "->"]) ||
    (isNext here (.marks "*") && !isNext here (.marks "*=")) ||
    (isNext here (.marks "|") && !isNext here (.marks "|=")) ||
    (isNext here (.marks "&") && !isNext here (.marks "&=")) ||
    (isNext here (.marks "<") && !isNextAmong here [.marks "<=", .marks "<<="])

/-- An input of a closure, perhaps with its type. -/
def closureInput (g : Grammar) : Reader Unit := do
  let _ ← g.attributes
  let _ ← g.pattern
  if ← takeIf (.marks ":") then discard (g.type true)

/-- A closure. Its body is a block if its type is given. -/
def closure (g : Grammar) (allowsStruct : Bool) : Reader Unit := do
  let _ ← g.binderIf
  let _ ← takeIf (.word "const")
  let _ ← takeIf (.word "static")
  let _ ← takeIf (.word "async")
  let _ ← takeIf (.word "move")
  take (.marks "|")
  let _ ← separatedUntil (isNext · (.marks "|")) (.marks ",") g.closureInput
  take (.marks "|")
  if ← takeIf (.marks "->") then
    let _ ← g.type true
    g.block
  else discard (g.expression allowsStruct)

/-- Whether a closure is next. -/
def isClosure (here : List Token) : Bool :=
  isBinder here || isNextAmong here [.marks "|", .word "move", .word "static"] ||
    (isNext here (.word "const") && !isSecond here (.group .curly)) ||
    (isNext here (.word "async") && (isSecond here (.marks "|") || isSecond here (.word "move")))

/-- The fields of a structure. Two points stand for the fields of another structure. -/
def structFields (g : Grammar) : Reader Unit :=
  within .curly <| repeatWhile do
    if ← atEnd then return false
    else if ← takeIf (.marks "..") then
      if !(← atEnd) then discard (g.expression true)
      return false
    else
      let _ ← g.attributes
      let isNamed ← isNamedMember
      if !isNamed || (← sees (.marks ":")) then
        take (.marks ":")
        discard (g.expression true)
      if ← atEnd then return false
      else
        take (.marks ",")
        return true

/-- A path, or what it names: a macro or a structure. -/
def pathExpression (g : Grammar) (allowsStruct : Bool) : Reader ExpressionForm := do
  let (subject, path) ← g.qualifiedPath true
  let here ← tokens
  if subject.isNone && isMacroCall here && path.hasNamesOnly then
    take (.marks "!")
    return if (← macroArguments) = .curly then .curlyMacro else .plain
  else if allowsStruct && isNext here (.group .curly) then
    g.structFields
    return .plain
  else return .plain

/-- Whether a path is next, as an expression. -/
def isPathExpression (here : List Token) : Bool :=
  isNextAmong here [.identifier, .marks "::", .marks "<", .word "self", .word "Self",
    .word "super", .word "crate"] ||
    (isNext here (.word "try") && (isSecond here (.marks "!") || isSecond here (.marks "::")))

/-- The elements of an array, or one element and how often it is repeated. -/
def arrayExpression (g : Grammar) : Reader Unit :=
  within .square do
    if !(← atEnd) then
      let _ ← g.expression true
      let here ← tokens
      if here.isEmpty then return ()
      else if isNext here (.marks ",") then
        take (.marks ",")
        discard (commaSeparated (g.expression true))
      else if isNext here (.marks ";") then
        take (.marks ";")
        discard (g.expression true)
      else expect [.marks ",", .marks ";"]

/-- An expression, if there is one. -/
def expressionIf (g : Grammar) : Reader Unit := do
  if isExpressionStart (← tokens) then discard (g.expression true)

/-- The end of a loop, perhaps with its label and its value. A labelled expression is a value only
in parentheses. -/
def breakExpression (g : Grammar) (allowsStruct : Bool) : Reader Unit := do
  take (.word "break")
  let here ← tokens
  if isNext here .lifetime && isSecond here (.marks ":") then
    let _ ← g.expression true
    reject .labelledValue
  else
    let _ ← takeIf .lifetime
    if allowsStruct || !(← sees (.group .curly)) then g.expressionIf

/-- A pattern and the value that it must fit. -/
def letExpression (g : Grammar) (allowsStruct : Bool) : Reader Unit := do
  take (.word "let")
  let _ ← g.alternatives
  take (.marks "=")
  let first ← g.operand allowsStruct
  let _ ← g.continuation allowsStruct .comparison first

/-- A condition with its block, and further ones behind it. -/
def ifExpression (g : Grammar) : Reader Unit :=
  repeatWhile do
    take (.word "if")
    let _ ← g.expression false
    g.block
    if ← takeIf (.word "else") then
      let here ← tokens
      if isNext here (.word "if") then return true
      else if isNext here (.group .curly) then
        g.block
        return false
      else expect [.word "if", .group .curly]
    else return false

/-- A loop with a condition. -/
def whileExpression (g : Grammar) : Reader Unit := do
  take (.word "while")
  let _ ← g.expression false
  g.attributedBlock

/-- A loop over values. -/
def forExpression (g : Grammar) : Reader Unit := do
  take (.word "for")
  let _ ← g.alternatives
  take (.word "in")
  let _ ← g.expression false
  g.attributedBlock

/-- A loop without a condition. -/
def loopExpression (g : Grammar) : Reader Unit := do
  take (.word "loop")
  g.attributedBlock

/-- A loop or a block with a label. -/
def labelledExpression (g : Grammar) : Reader Unit := do
  take .lifetime
  take (.marks ":")
  let here ← tokens
  if isNext here (.word "while") then g.whileExpression
  else if isNext here (.word "for") then g.forExpression
  else if isNext here (.word "loop") then g.loopExpression
  else if isNext here (.group .curly) then g.attributedBlock
  else rejectHere .missingLabelled

/-- An alternative of a choice: a pattern with its condition and its value. A comma must follow the
value unless it ends with a block. -/
def choiceArm (g : Grammar) : Reader Unit := do
  let _ ← g.attributes
  let _ ← g.alternatives
  if ← takeIf (.word "if") then discard (g.expression true)
  take (.marks "=>")
  let form ← g.statementExpression
  if form = .block || (← atEnd) then discard (takeIf (.marks ","))
  else take (.marks ",")

/-- A choice among alternatives. -/
def choice (g : Grammar) : Reader Unit := do
  take (.word "match")
  let _ ← g.expression false
  within .curly do
    g.innerAttributes
    discard (collectUntil List.isEmpty g.choiceArm)

/-- A block behind a reserved name. -/
def markedBlock (g : Grammar) (word : String) : Reader Unit := do
  take (.word word)
  g.attributedBlock

/-- The expression with a block that is next, if there is one. -/
def blockExpression? (g : Grammar) (here : List Token) : Option (Reader Unit) :=
  if isNext here (.word "if") then some g.ifExpression
  else if isNext here (.word "while") then some g.whileExpression
  else if isNext here (.word "for") && !isBinder here then some g.forExpression
  else if isNext here (.word "loop") then some g.loopExpression
  else if isNext here (.word "match") then some g.choice
  else if isNext here (.word "try") && isSecond here (.group .curly) then some do
    take (.word "try")
    g.block
  else if isNext here (.word "unsafe") then some (g.markedBlock "unsafe")
  else if isNext here (.word "const") && isSecond here (.group .curly) then
    some (g.markedBlock "const")
  else if isNext here (.group .curly) then some g.attributedBlock
  else if isNext here .lifetime then some g.labelledExpression
  else none

/-- Whether a block is next that is run later. -/
def isDeferredBlock (here : List Token) : Bool :=
  isNext here (.word "async") &&
    (isSecond here (.group .curly) ||
      (isSecond here (.word "move") && isThird here (.group .curly)))

/-- A block that is run later. -/
def deferredBlock (g : Grammar) : Reader Unit := do
  take (.word "async")
  let _ ← takeIf (.word "move")
  g.block

/-- What the language itself offers under a name. -/
def builtinExpression : Reader Unit := do
  take (.word "builtin")
  take (.marks "#")
  let _ ← identifier
  discard (group .round)

/-- An atom that ends without a block of its own. -/
def plainAtom (g : Grammar) (allowsStruct : Bool) (here : List Token) : Reader Unit :=
  if isDeferredBlock here then g.deferredBlock
  else if isClosure here then g.closure allowsStruct
  else if isNext here (.group .round) then g.callArguments
  else if isNext here (.word "break") then g.breakExpression allowsStruct
  else if isNext here (.word "continue") then do
    take (.word "continue")
    discard (takeIf .lifetime)
  else if isNext here (.word "return") then do
    take (.word "return")
    g.expressionIf
  else if isNext here (.word "become") then do
    take (.word "become")
    discard (g.expression true)
  else if isNext here (.group .square) then g.arrayExpression
  else if isNext here (.word "let") then g.letExpression allowsStruct
  else if isNext here (.word "yield") then do
    take (.word "yield")
    g.expressionIf
  else if isNext here (.word "_") then take (.word "_")
  else rejectHere .missingExpression

/-- An atom, by what it begins with. -/
def atom (g : Grammar) (allowsStruct : Bool) : Reader ExpressionForm := do
  let here ← tokens
  if isNext here .literal then
    take .literal
    return .plain
  else if isNext here (.word "builtin") && isSecond here (.marks "#") then
    builtinExpression
    return .plain
  else if isPathExpression here then g.pathExpression allowsStruct
  else if isNext here (.marks "..") then g.rangeRest allowsStruct
  else
    match g.blockExpression? here with
    | some block => do
      block
      return .block
    | none => do
      g.plainAtom allowsStruct here
      return .plain

/-- The sign of a reference, which can be raw. -/
def referenceSign : Reader Unit := do
  take (.marks "&")
  let here ← tokens
  let isRaw := isNext here (.word "raw") &&
    (isSecond here (.word "mut") || isSecond here (.word "const"))
  if isRaw then take (.word "raw")
  if !(← takeIf (.word "mut")) && isRaw then take (.word "const")

/-- An operand: signs, an atom, and what is behind it. A range that begins with its sign has no
attributes. -/
def operandRule (g : Grammar) (allowsStruct : Bool) : Reader ExpressionForm := do
  let attributes ← g.attributes
  let here ← tokens
  if isNext here (.marks "&") then
    referenceSign
    let _ ← g.operand allowsStruct
    return .plain
  else if isNextAmong here [.marks "*", .marks "!", .marks "-"] then
    take (if isNext here (.marks "*") then .marks "*"
      else if isNext here (.marks "!") then .marks "!" else .marks "-")
    let _ ← g.operand allowsStruct
    return .plain
  else
    let form ← g.trailers (← g.atom allowsStruct)
    if form = .range && !attributes.isEmpty then reject .attributeOnRange else return form

/-- An expression as a statement or as the value of an alternative. It is complete behind its block
if it begins with one, unless a member follows or the sign of a question. -/
def statementExpressionRule (g : Grammar) : Reader ExpressionForm := do
  let _ ← g.attributes
  match g.blockExpression? (← tokens) with
  | none => do
    let first ← g.operand true
    g.continuation true .jump first
  | some block => do
    block
    let here ← tokens
    if (isNext here (.marks ".") && !isNext here (.marks "..")) || isNext here (.marks "?") then
      let first ← g.trailers .block
      g.continuation true .jump first
    else return .block

end Exemplar.Grammar
