import Exemplar.Grammar.Data
import Exemplar.Grammar.Pattern
import Exemplar.Grammar.Type

/-!
Reading the heads of functions. The instance that a function belongs to can only be its first input,
and the sign for further inputs can only be its last one.
-/

set_option autoImplicit false
set_option relaxedAutoImplicit false

namespace Exemplar.Grammar

open Reader
open Token (isNext isNextAmong isSecond isThird)

/-- An input that is the instance itself. -/
def receiver (g : Grammar) : Reader Unit := do
  let isReference ← takeIf (.marks "&")
  if isReference then discard (takeIf .lifetime)
  let _ ← takeIf (.word "mut")
  take (.word "self")
  if !isReference && (← takeIf (.marks ":")) then discard (g.type true)

/-- What an input of a function is: the instance, another input, or the sign for further ones. -/
inductive InputForm
  | receiver
  | typed
  | further
  deriving DecidableEq

/-- An input of a function. -/
def input (g : Grammar) : Reader InputForm := do
  if ← takeIf (.marks "...") then return .further
  else if (← attempt g.receiver).isSome then return .receiver
  else
    let here ← tokens
    if isNext here .identifier && isSecond here (.marks "<") then
      let _ ← g.type true
      return .typed
    else
      let _ ← g.pattern
      take (.marks ":")
      if ← takeIf (.marks "...") then return .further
      else
        let _ ← g.type true
        return .typed

/-- The inputs of a function, at most as many as given. The instance can only be the first one. -/
def inputsAtMost (g : Grammar) : (isFirst hasReceiver : Bool) → Nat → Reader Unit
  | _, _, 0 => return ()
  | isFirst, hasReceiver, n + 1 => do
    if !(← atEnd) then
      let _ ← g.attributes
      let form ← g.input
      if form = .further then
        if !(← atEnd) then take (.marks ",")
      else if form = .receiver && hasReceiver then reject .secondReceiver
      else if form = .receiver && !isFirst then reject .lateReceiver
      else if !(← atEnd) then
        take (.marks ",")
        g.inputsAtMost false (hasReceiver || form = .receiver) n

/-- The head of a function: what it is called, what it takes and what it gives. -/
def signature (g : Grammar) : Reader Unit := do
  let _ ← takeIf (.word "const")
  let _ ← takeIf (.word "async")
  let _ ← takeIf (.word "unsafe")
  interfaceIf
  take (.word "fn")
  let _ ← identifier
  let _ ← g.parameters
  let inputs := do g.inputsAtMost true false (Token.totalSize (← tokens) + 1)
  enclosed .round inputs fun _ ↦ do
    g.result true
    g.conditionsIf

/-- Whether the head of a function is next, with what can stand in front of its reserved name. -/
def isSignature (here : List Token) : Bool :=
  let here := skip (.word "const") here
  let here := skip (.word "async") here
  let here := skip (.word "unsafe") here
  let here :=
    if isNext here (.word "extern") then skip .quotedText (Token.afterFirst 1 here) else here
  isNext here (.word "fn") && !isSecond here (.group .round)
where
  /-- The tokens behind something that can be next. -/
  skip (beginning : Beginning) (here : List Token) : List Token :=
    if isNext here beginning then Token.afterFirst 1 here else here

end Exemplar.Grammar
