import Exemplar.Declaration.Identifier
import Exemplar.Declaration.Rejection

/-!
Readers take tokens off the front of a list. Within a bracket a reader sees the tokens inside only,
and what is left there when the bracket is closed does not stop it: the first of such leftovers is
kept, and is the reason to reject the whole only if nothing else is.
-/

set_option autoImplicit false
set_option relaxedAutoImplicit false

namespace Exemplar

/-- Where a reader has come: the tokens that are left in the innermost bracket, and the first
leftover of the brackets that are closed. -/
structure Position where
  rest : List Token
  leftover : Option Rejection

/-- What takes tokens off the front and makes something of them. -/
abbrev Reader (α : Type) : Type :=
  StateT Position (Except Rejection) α

namespace Reader

variable {α β : Type}

/-- The tokens that are left. -/
def tokens : Reader (List Token) :=
  return (← get).rest

/-- Leaves other tokens. -/
def moveTo (rest : List Token) : Reader Unit :=
  modify fun position ↦ { position with rest := rest }

/-- Rejects the whole. -/
def reject (rejection : Rejection) : Reader α :=
  throw rejection

/-- Rejects the whole for a reason that depends on whether there are tokens left. -/
def rejectHere (rejection : Bool → Rejection) : Reader α := do
  reject (rejection (← tokens).isEmpty)

/-- Rejects the whole as the next tokens begin with none of several things. -/
def expect (beginnings : List Beginning) : Reader α :=
  rejectHere (.missing beginnings)

/-- Whether there are no tokens left. -/
def atEnd : Reader Bool :=
  return (← tokens).isEmpty

/-- Whether something is next. -/
def sees (beginning : Beginning) : Reader Bool :=
  return Token.isNext (← tokens) beginning

/-- Takes what must be next. That marks are missing does not depend on what stands in their
place. -/
def take (beginning : Beginning) : Reader Unit := do
  let here ← tokens
  if Token.isNext here beginning then moveTo (Token.afterFirst (beginning.width here) here)
  else
    match beginning with
    | .marks _ => reject (.missing [beginning] false)
    | _ => expect [beginning]

/-- Takes what may be next, and tells whether it was there. -/
def takeIf (beginning : Beginning) : Reader Bool := do
  if ← sees beginning then
    take beginning
    return true
  else return false

/-- Takes any name. -/
def anyName : Reader Identifier := do
  match Token.opened (← tokens) with
  | .name text :: rest =>
    match Identifier.ofString? text with
    | some name => do
      moveTo rest
      return name
    | none => expect [.anyName]
  | _ => expect [.anyName]

/-- Takes a name that is not reserved. -/
def identifier : Reader Identifier := do
  match Token.opened (← tokens) with
  | .name text :: _ => if text ∈ Token.keywords then reject (.reservedName text) else anyName
  | _ => expect [.identifier]

/-- The leftover that tokens are at the end of a bracket. Hidden brackets have ends of their own,
and do not count if there is nothing inside. -/
def leftoverOf (bracket : Bracket) (rest : List Token) : Option Rejection :=
  match rest with
  | [] => none
  | .group .hidden inside :: others =>
    if (Token.opened inside).isEmpty then leftoverOf bracket others else some (.leftover .hidden)
  | _ => some (.leftover bracket)

/-- Keeps the leftover at the end of a bracket, unless there was one before. -/
def keepLeftover (bracket : Bracket) (rest : List Token) : Reader Unit :=
  modify fun position ↦
    { position with leftover := position.leftover.or (leftoverOf bracket rest) }

/-- Takes a group, whose inside is returned. Hidden brackets stand in nobody's way but that of
another hidden bracket. -/
def group (bracket : Bracket) : Reader (List Token) := do
  let here ← tokens
  match if bracket = .hidden then here else Token.opened here with
  | .group other inside :: rest =>
    if bracket = other then do
      moveTo rest
      return inside
    else expect [.group bracket]
  | _ => expect [.group bracket]

/-- Reads within a bracket, and goes on behind it. The bracket counts as closed only then. -/
def enclosed (bracket : Bracket) (contents : Reader α) (next : α → Reader β) : Reader β := do
  let inside ← group bracket
  let behind ← tokens
  moveTo inside
  let a ← contents
  let rest ← tokens
  moveTo behind
  let b ← next a
  keepLeftover bracket rest
  return b

/-- Reads within a bracket. -/
def within (bracket : Bracket) (contents : Reader α) : Reader α :=
  enclosed bracket contents pure

/-- Reads without taking anything. -/
def ahead (reader : Reader α) : Reader α := do
  let position ← get
  let a ← reader
  set position
  return a

/-- Reads, or takes nothing where that is rejected. -/
def attempt (reader : Reader α) : Reader (Option α) := do
  match reader.run (← get) with
  | .ok (a, position) => do
    set position
    return some a
  | .error _ => return none

/-- Repeats a step as long as it says so, but at most as often as given. -/
def repeatAtMost (step : Reader Bool) : Nat → Reader Unit
  | 0 => return ()
  | n + 1 => do
    if ← step then repeatAtMost step n

/-- Repeats a step as long as it says so. A step takes tokens, so there are no more steps than
tokens. -/
def repeatWhile (step : Reader Bool) : Reader Unit := do
  repeatAtMost step (Token.totalSize (← tokens) + 1)

/-- Reads items as long as there are some, but at most as many as given. -/
def collectAtMost (item : Reader (Option α)) : Nat → Reader (List α)
  | 0 => return []
  | n + 1 => do
    match ← item with
    | none => return []
    | some a => return a :: (← collectAtMost item n)

/-- Reads items as long as there are some. An item takes tokens, so there are no more items than
tokens. -/
def collect (item : Reader (Option α)) : Reader (List α) := do
  collectAtMost item (Token.totalSize (← tokens) + 1)

/-- Reads items up to the end, where tokens can end them. -/
def collectUntil (isEnd : List Token → Bool) (item : Reader α) : Reader (List α) :=
  collect do
    if isEnd (← tokens) then return none else return some (← item)

/-- Reads items with something between them, at most as many as given. There can be a separator
behind the last one. -/
def separatedAtMost (isEnd : List Token → Bool) (separator : Beginning) (item : Reader α) :
    Nat → Reader (List α)
  | 0 => return []
  | n + 1 => do
    if isEnd (← tokens) then return []
    else
      let a ← item
      if isEnd (← tokens) then return [a]
      else
        take separator
        return a :: (← separatedAtMost isEnd separator item n)

/-- Reads items with something between them, and perhaps behind the last one. -/
def separatedUntil (isEnd : List Token → Bool) (separator : Beginning) (item : Reader α) :
    Reader (List α) := do
  separatedAtMost isEnd separator item (Token.totalSize (← tokens) + 1)

/-- Reads items with commas between them up to the end of the bracket. -/
def commaSeparated (item : Reader α) : Reader (List α) :=
  separatedUntil List.isEmpty (.marks ",") item

/-- What a reader makes of all of the tokens. -/
def readAll (reader : Reader α) (tokens : List Token) : Except Rejection α := do
  let (a, position) ← reader.run ⟨tokens, none⟩
  match position.leftover.or (leftoverOf .hidden position.rest) with
  | none => return a
  | some rejection => .error rejection

end Reader

end Exemplar
