import Exemplar.Grammar.Expression
import Exemplar.Grammar.Item

/-!
Reading the statements of a block: bindings, items, macros and expressions. A semicolon must follow
an expression, unless it ends with a block or is the last one.
-/

set_option autoImplicit false
set_option relaxedAutoImplicit false

namespace Exemplar.Grammar

open Reader
open Token (isNext isNextAmong isSecond isThird)

/-- What a statement that begins with names and the sign of a macro is: an item, or a macro with
curly brackets. -/
inductive MacroForm
  | item
  | curly
  deriving DecidableEq

/-- The form of a macro whose sign is next. Where a member follows, the macro begins an
expression. -/
def macroForm? (here : List Token) : Option MacroForm :=
  if !isNext here (.marks "!") then none
  else if isSecond here .identifier || isSecond here (.word "try") then some .item
  else if isSecond here (.group .curly) &&
      !((isThird here (.marks ".") && !isThird here (.marks "..")) || isThird here (.marks "?"))
  then some .curly
  else none

/-- The form of a statement that begins with a macro, if it does. -/
def macroStatement? : Reader (Option MacroForm) := do
  match ← attempt (ahead do
      let _ ← namePath
      return macroForm? (← tokens)) with
  | some form => return form
  | none => return none

/-- A macro with curly brackets. -/
def macroStatement : Reader Unit := do
  let _ ← namePath
  take (.marks "!")
  let _ ← macroArguments
  discard (takeIf (.marks ";"))

/-- Whether tokens end with a group in curly brackets. -/
def endsWithBlock (read : List Token) : Bool :=
  match read.getLast? with
  | some (.group .curly _) => true
  | _ => false

/-- A binding, with its type and its value. Where the value does not end with a block, a block can
follow for values that do not fit. -/
def bindingStatement (g : Grammar) : Reader Unit := do
  take (.word "let")
  let _ ← g.pattern
  if ← takeIf (.marks ":") then discard (g.type true)
  if ← takeIf (.marks "=") then
    let value ← tokens
    let _ ← g.expression true
    let behind ← tokens
    let read := value.take (value.length - behind.length)
    if isNext behind (.word "else") && !endsWithBlock read then
      take (.word "else")
      g.block
  take (.marks ";")

/-- Whether an item is next that begins with the reserved name for constants. -/
def isConstantItem (here : List Token) : Bool :=
  isNext here (.word "const") &&
    !(isSecond here (.group .curly) || isSecond here (.word "static") ||
      isSecond here (.word "move") || isSecond here (.marks "|") ||
      (isSecond here (.word "async") &&
        !(isThird here (.word "unsafe") || isThird here (.word "extern") ||
          isThird here (.word "fn"))))

/-- Whether an item is next. -/
def isItem (here : List Token) : Bool :=
  isNextAmong here [.word "pub", .word "extern", .word "use", .word "fn", .word "mod",
    .word "type", .word "struct", .word "enum", .word "trait", .word "impl", .word "macro"] ||
    isConstantItem here ||
    (isNext here (.word "crate") && !isSecond here (.marks "::")) ||
    (isNext here (.word "static") && (isSecond here (.word "mut") || isSecond here .identifier)) ||
    (isNext here (.word "unsafe") && !isSecond here (.group .curly)) ||
    (isNext here (.word "async") &&
      (isSecond here (.word "unsafe") || isSecond here (.word "extern") ||
        isSecond here (.word "fn"))) ||
    (isNext here (.word "union") && isSecond here .identifier) ||
    (isNext here (.word "auto") && isSecond here (.word "trait")) ||
    (isNext here (.word "default") &&
      (isSecond here (.word "unsafe") || isSecond here (.word "impl")))

/-- An expression as a statement, and whether a semicolon must follow. -/
def expressionStatement (g : Grammar) : Reader Bool := do
  let form ← g.statementExpression
  if ← takeIf (.marks ";") then return false
  else return form ≠ .block && form ≠ .curlyMacro

/-- A statement, and whether a semicolon must follow. -/
def statement (g : Grammar) : Reader Bool := do
  let _ ← g.attributes
  let form ← macroStatement?
  if form = some .curly then
    macroStatement
    return false
  else
    let here ← tokens
    if isNext here (.word "let") then
      g.bindingStatement
      return false
    else if isItem here || form = some .item then
      g.itemBehind
      return false
    else g.expressionStatement

/-- The statements of a block. -/
def statementsRule (g : Grammar) : Reader Unit :=
  repeatWhile do
    repeatWhile (takeIf (.marks ";"))
    if ← atEnd then return false
    else
      let isOpen ← g.statement
      if ← atEnd then return false
      else if isOpen then reject .missingSemicolon
      else return true

end Exemplar.Grammar
