import Exemplar.Token.Basic

/-!
What tokens can begin with, for a grammar that decides by the next tokens how it goes on. Hidden
brackets are looked through unless they themselves are asked for, and one mark in front of another
without a blank may be the first half of a longer mark.
-/

set_option autoImplicit false
set_option relaxedAutoImplicit false

namespace Exemplar

/-- What tokens can begin with: a certain name, certain marks, a name that is not reserved, any
name, a lifetime, a literal, a text, or a group. -/
inductive Beginning
  | word (text : String)
  | marks (text : String)
  | identifier
  | anyName
  | lifetime
  | literal
  | quotedText
  | group (bracket : Bracket)
  deriving DecidableEq

namespace Beginning

/-- How a beginning is called. -/
def description : Beginning → String
  | word text => "`" ++ text ++ "`"
  | marks text => "`" ++ text ++ "`"
  | identifier => "identifier"
  | anyName => "identifier"
  | lifetime => "lifetime"
  | literal => "literal"
  | quotedText => "string literal"
  | group .round => "parentheses"
  | group .square => "square brackets"
  | group .curly => "curly braces"
  | group .hidden => "invisible group"

/-- Whether tokens begin with certain marks, each joined to the next one. -/
def areMarks : List Char → List Token → Bool
  | [], _ => true
  | c :: cs, tokens =>
    match Token.opened tokens with
    | .mark d isJoint :: rest => c = d && (cs.isEmpty || (isJoint && areMarks cs rest))
    | _ => false

/-- Whether tokens begin with a literal. The truth values are literals, and so are numbers with a
minus sign. -/
def isLiteral (tokens : List Token) : Bool :=
  match Token.opened tokens with
  | .literal _ :: _ => true
  | .name text :: _ => text = "true" || text = "false"
  | .mark '-' _ :: rest =>
    match Token.opened rest with
    | .literal (.number _) :: _ => true
    | _ => false
  | _ => false

/-- Whether this is what tokens begin with. -/
def isNext (tokens : List Token) : Beginning → Bool
  | word text =>
    match Token.opened tokens with
    | .name other :: _ => text = other
    | _ => false
  | marks text => areMarks text.toList tokens
  | identifier =>
    match Token.opened tokens with
    | .name text :: _ => text ∉ Token.keywords
    | _ => false
  | anyName =>
    match Token.opened tokens with
    | .name _ :: _ => true
    | _ => false
  | lifetime =>
    match Token.opened tokens with
    | .lifetime :: _ => true
    | _ => false
  | literal => isLiteral tokens
  | quotedText =>
    match Token.opened tokens with
    | .literal (.text _) :: _ => true
    | _ => false
  | group .hidden =>
    match tokens with
    | .group .hidden _ :: _ => true
    | _ => false
  | group bracket =>
    match Token.opened tokens with
    | .group other _ :: _ => bracket = other
    | _ => false

/-- The number of tokens that a beginning covers. -/
def width (tokens : List Token) : Beginning → Nat
  | marks text => text.length
  | literal =>
    match Token.opened tokens with
    | .mark _ _ :: _ => 2
    | _ => 1
  | _ => 1

end Beginning

namespace Token

/-- The tokens behind the first ones. -/
def afterFirst : Nat → List Token → List Token
  | 0, tokens => tokens
  | n + 1, tokens => afterFirst n (opened tokens).tail

/-- Whether tokens begin with something. -/
def isNext (tokens : List Token) (beginning : Beginning) : Bool :=
  beginning.isNext tokens

/-- Whether tokens begin with one of several things. -/
def isNextAmong (tokens : List Token) (beginnings : List Beginning) : Bool :=
  beginnings.any fun beginning ↦ beginning.isNext tokens

/-- Whether the tokens behind the first one begin with something. -/
def isSecond (tokens : List Token) (beginning : Beginning) : Bool :=
  beginning.isNext (afterFirst 1 tokens)

/-- Whether the tokens behind the first two begin with something. -/
def isThird (tokens : List Token) (beginning : Beginning) : Bool :=
  beginning.isNext (afterFirst 2 tokens)

end Token

end Exemplar
