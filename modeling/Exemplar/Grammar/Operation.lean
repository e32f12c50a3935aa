import Exemplar.Grammar.Basic

/-!
Reading operators and their right operands, as the continuation of a left operand. A range is no
left operand of another operator, comparisons are not chained, and a conversion is followed by
operators only.
-/

set_option autoImplicit false
set_option relaxedAutoImplicit false

namespace Exemplar.Grammar

open Reader
open Token (isNext isNextAmong isSecond isThird)

/-- Reads the sign of a range, and tells whether the upper bound belongs to the range. -/
def isClosedRange (allowsOld : Bool) : Reader Bool := do
  if ← takeIf (.marks "..=") then return true
  else if ← sees (.marks "...") then
    if allowsOld then
      take (.marks "...")
      return true
    else expect [.marks "..="]
  else if ← takeIf (.marks "..") then return false
  else expect [.marks ".."]

/-- The right operand of an operator, with what binds it more tightly. Assignments are read from the
right. -/
def rightOperand (g : Grammar) (allowsStruct : Bool) (precedence : Precedence) :
    Reader ExpressionForm := do
  let first ← g.operand allowsStruct
  further first (Token.totalSize (← tokens) + 1)
where
  /-- What binds the operand more tightly, as long as something does. -/
  further (form : ExpressionForm) : Nat → Reader ExpressionForm
    | 0 => return form
    | n + 1 => do
      let here ← tokens
      let next := Precedence.ofTokens here
      if precedence.rank < next.rank || (next = precedence && precedence = .assignment) then
        let longer ← g.continuation allowsStruct next form
        if Token.totalSize (← tokens) = Token.totalSize here then return longer
        else further longer n
      else return form

/-- Whether a range that goes up to its upper end excluded has no upper end. -/
def isRangeComplete (allowsStruct : Bool) (here : List Token) : Bool :=
  here.isEmpty ||
    isNextAmong here [.marks ",", .marks ";", .marks "?", .marks "=>", .marks "=", .marks "+",
      .marks "/", .marks "%", .marks "^", .marks ">", .marks "<=", .marks "!=", .marks "-=",
      .marks "*=", .marks "&=", .marks "|=", .marks "<<=", .word "as"] ||
    (isNext here (.marks ".") && !isNext here (.marks "..")) ||
    (!allowsStruct && isNext here (.group .curly))

/-- The sign of a range and its upper end. -/
def rangeRest (g : Grammar) (allowsStruct : Bool) : Reader ExpressionForm := do
  let isClosed ← isClosedRange false
  if isClosed || !isRangeComplete allowsStruct (← tokens) then
    let _ ← g.rightOperand allowsStruct .range
  return .range

/-- What follows a conversion but cannot, if it does. -/
def conversionContinuation? (here : List Token) : Option Continuation :=
  if isNext here (.marks ".") && !isNext here (.marks "..") then
    if isSecond here (.word "await") then some .await
    else if isSecond here .identifier &&
        (isThird here (.group .round) || isThird here (.marks "::")) then
      some .method
    else some .field
  else if isNext here (.marks "?") then some .question
  else if isNext here (.group .square) then some .index
  else if isNext here (.group .round) then some .call
  else none

/-- A conversion to a type. -/
def conversion (g : Grammar) : Reader ExpressionForm := do
  take (.word "as")
  let _ ← g.type false
  match conversionContinuation? (← tokens) with
  | none => return .plain
  | some continuation => reject (.continuedConversion continuation)

/-- An operator and its right operand, behind a left operand. -/
def binary (g : Grammar) (allowsStruct : Bool) (left : ExpressionForm)
    (operator : String × Precedence) : Reader ExpressionForm := do
  let (marks, precedence) := operator
  if precedence = .comparison && left = .comparison then reject .chainedComparison
  else
    take (.marks marks)
    let _ ← g.rightOperand allowsStruct precedence
    return if precedence = .comparison then .comparison else .plain

/-- A left operand with one more operator, if there is one that binds it tightly enough. -/
def extension (g : Grammar) (allowsStruct : Bool) (base : Precedence) (left : ExpressionForm) :
    Reader (Option ExpressionForm) := do
  if left = .range then return none
  else
    let here ← tokens
    match Precedence.operator? here with
    | some operator =>
      if operator.2.rank < base.rank then return none
      else return some (← g.binary allowsStruct left operator)
    | none =>
      let next := Precedence.ofTokens here
      if next.rank < base.rank then return none
      else
        match next with
        | .assignment => do
          take (.marks "=")
          let _ ← g.rightOperand allowsStruct .assignment
          return some .plain
        | .range => return some (← g.rangeRest allowsStruct)
        | .conversion => return some (← g.conversion)
        | _ => return none

/-- A left operand with all operators that bind it tightly enough. -/
def continuationRule (g : Grammar) (allowsStruct : Bool) (base : Precedence)
    (left : ExpressionForm) : Reader ExpressionForm := do
  further left (Token.totalSize (← tokens) + 1)
where
  /-- A left operand with at most as many operators as given. -/
  further (left : ExpressionForm) : Nat → Reader ExpressionForm
    | 0 => return left
    | n + 1 => do
      match ← g.extension allowsStruct base left with
      | none => return left
      | some longer => further longer n

/-- An expression. -/
def expressionRule (g : Grammar) (allowsStruct : Bool) : Reader ExpressionForm := do
  let first ← g.operand allowsStruct
  g.continuation allowsStruct .jump first

end Exemplar.Grammar
