/-!
Declarations are written in tokens: names, lifetimes, marks of punctuation, literals, and groups of
tokens in brackets. White space and comments stand between tokens and are not tokens themselves.
Hidden brackets cannot be written: they hold tokens together that were put in from elsewhere.
-/

set_option autoImplicit false
set_option relaxedAutoImplicit false

namespace Exemplar

/-- The brackets around a group. -/
inductive Bracket
  | round
  | square
  | curly
  | hidden
  deriving DecidableEq

/-- A literal: a text with its content, a number as it is written, or one of another kind. -/
inductive Literal
  | text (content : String)
  | number (written : String)
  | other
  deriving DecidableEq

/-- A token. A mark is joint if another mark follows it immediately, as in a double colon. -/
inductive Token
  | name (text : String)
  | lifetime
  | mark (char : Char) (isJoint : Bool)
  | literal (literal : Literal)
  | group (bracket : Bracket) (tokens : List Token)

namespace Token

/-- Whether this is a certain mark. -/
def isMark (c : Char) : Token → Bool
  | mark d _ => c = d
  | _ => false

/-- The tokens between the commas that are not inside of groups. There is always one piece more
than there are commas. -/
def splitAtCommas (piece : List Token) : List Token → List (List Token)
  | [] => [piece.reverse]
  | token :: tokens =>
    if token.isMark ',' then piece.reverse :: splitAtCommas [] tokens
    else splitAtCommas (token :: piece) tokens

/-- The pieces with a comma between any two of them. -/
def joinWithCommas (pieces : List (List Token)) : List Token :=
  [mark ',' false].intercalate pieces

mutual

/-- The number of tokens that a token consists of. A group counts as one more than its inside. -/
def size : Token → Nat
  | group _ tokens => totalSize tokens + 1
  | name _ | lifetime | mark _ _ | literal _ => 1
termination_by structural token => token

/-- The number of tokens that tokens consist of. -/
def totalSize : List Token → Nat
  | [] => 0
  | token :: tokens => token.size + totalSize tokens
termination_by structural tokens => tokens

end

mutual

/-- A token without hidden brackets around it. A hidden group can have nothing inside. -/
def unwrapped : Token → List Token
  | group .hidden tokens => opened tokens
  | token => [token]
termination_by structural token => token

/-- The tokens with the hidden brackets opened that they begin with. -/
def opened : List Token → List Token
  | [] => []
  | token :: tokens =>
    match token.unwrapped with
    | [] => opened tokens
    | first :: others => first :: (others ++ tokens)
termination_by structural tokens => tokens

end

/-- The names that are reserved. -/
def keywords : List String :=
  ["_", "abstract", "as", "async", "await", "become", "box", "break", "const", "continue", "crate",
    "do", "dyn", "else", "enum", "extern", "false", "final", "fn", "for", "if", "impl", "in", "let",
    "loop", "macro", "match", "mod", "move", "mut", "override", "priv", "pub", "ref", "return",
    "Self", "self", "static", "struct", "super", "trait", "true", "try", "type", "typeof", "unsafe",
    "unsized", "use", "virtual", "where", "while", "yield"]

end Token

end Exemplar
