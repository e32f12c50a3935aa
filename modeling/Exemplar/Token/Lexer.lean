import Exemplar.Token.Literal

/-!
The tokens of a text. At each point of the text there is white space, a comment, a bracket, a
literal, a mark or a name, in this order of precedence. A documentation comment stands for an
attribute, and so for a number sign and a group. The brackets of the whole text must match; a text
that is not made of tokens has none.
-/

set_option autoImplicit false
set_option relaxedAutoImplicit false

namespace Exemplar

/-- A token without its inside: brackets are on their own. -/
inductive Lexeme
  | token (token : Token)
  | opening (bracket : Bracket)
  | closing (bracket : Bracket)

namespace Lexeme

/-- The characters that are marks. -/
def marks : List Char :=
  ['~', '!', '@', '#', '$', '%', '^', '&', '*', '-', '=', '+', '|', ';', ':', ',', '<', '.', '>',
    '/', '?']

/-- Whether a text begins with a mark, and not with a comment. -/
def startsWithMark : List Char → Bool
  | '/' :: '/' :: _ => false
  | '/' :: '*' :: _ => false
  | c :: _ => c ∈ marks || c = '\x27'
  | [] => false

/-- The attribute that a documentation comment stands for. -/
def documentation (isInner : Bool) (content : List Char) : List Lexeme :=
  [token (.mark '#' false)] ++ (if isInner then [token (.mark '!' false)] else []) ++
    [opening .square, token (.name "doc"), token (.mark '=' false),
      token (.literal (.text (String.ofList content))), closing .square]

/-- What a comment to the end of the line stands for. Three slashes begin documentation, and four do
not. -/
def ofLineComment : List Char → List Lexeme
  | '!' :: content => documentation true content
  | '/' :: '/' :: _ => []
  | '/' :: content => documentation false content
  | _ => []

/-- What a comment between two marks stands for. Two asterisks begin documentation, and three do
not. -/
def ofBlockComment : List Char → List Lexeme
  | '!' :: content => documentation true content
  | '*' :: '*' :: _ => []
  | '*' :: c :: content => documentation false (c :: content)
  | _ => []

/-- The content of a comment up to the mark that ends it, and what is behind. Comments nest. -/
def readBlockComment (depth : Nat) (content : List Char) :
    List Char → Option (List Char × List Char)
  | '/' :: '*' :: cs => readBlockComment (depth + 1) ('*' :: '/' :: content) cs
  | '*' :: '/' :: cs =>
    if depth = 0 then some (content.reverse, cs)
    else readBlockComment (depth - 1) ('/' :: '*' :: content) cs
  | c :: cs => readBlockComment depth (c :: content) cs
  | [] => none

/-- White space at the beginning of a text. -/
def readBlank : List Char → Option (List Lexeme × List Char)
  | c :: cs => if isBlank c then some ([], cs) else none
  | [] => none

/-- A comment at the beginning of a text. -/
def readComment : List Char → Option (List Lexeme × List Char)
  | '/' :: '/' :: cs =>
    some (ofLineComment (cs.takeWhile (· ≠ '\n')), cs.dropWhile (· ≠ '\n'))
  | '/' :: '*' :: cs =>
    (readBlockComment 0 [] cs).map fun (content, rest) ↦ (ofBlockComment content, rest)
  | _ => none

/-- A bracket at the beginning of a text. -/
def readBracket : List Char → Option (List Lexeme × List Char)
  | '(' :: cs => some ([opening .round], cs)
  | ')' :: cs => some ([closing .round], cs)
  | '[' :: cs => some ([opening .square], cs)
  | ']' :: cs => some ([closing .square], cs)
  | '\x7b' :: cs => some ([opening .curly], cs)
  | '\x7d' :: cs => some ([closing .curly], cs)
  | _ => none

/-- A literal at the beginning of a text. -/
def readLiteral (text : List Char) : Option (List Lexeme × List Char) :=
  (Literal.read? text).map fun (literal, rest) ↦ ([token (.literal literal)], rest)

/-- A word at the beginning of a text, and what is behind it. A raw word keeps its sign. -/
def readWord : List Char → Option (List Char × List Char)
  | 'r' :: '#' :: c :: cs =>
    if isWordStart c then
      some ('r' :: '#' :: c :: cs.takeWhile isWordChar, cs.dropWhile isWordChar)
    else none
  | c :: cs =>
    if isWordStart c then some (c :: cs.takeWhile isWordChar, cs.dropWhile isWordChar) else none
  | [] => none

/-- A mark or a lifetime at the beginning of a text. -/
def readMark : List Char → Option (List Lexeme × List Char)
  | '\x27' :: cs => (readWord cs).map fun (_, rest) ↦ ([token .lifetime], rest)
  | c :: cs =>
    if startsWithMark (c :: cs) then some ([token (.mark c (startsWithMark cs))], cs) else none
  | [] => none

/-- A name at the beginning of a text. -/
def readName (text : List Char) : Option (List Lexeme × List Char) :=
  (readWord text).map fun (word, rest) ↦ ([token (.name (String.ofList word))], rest)

/-- What is at the beginning of a text, and the rest of the text. -/
def read? (text : List Char) : Option (List Lexeme × List Char) :=
  readBlank text <|> readComment text <|> readBracket text <|> readLiteral text <|>
    readMark text <|> readName text

/-- The lexemes of a text. Whatever is read is not empty, so the rest of the text is shorter. -/
def all? (text : List Char) : Option (List Lexeme) :=
  if text = [] then some []
  else
    match read? text with
    | none => none
    | some (first, rest) =>
      if rest.length < text.length then (all? rest).map (first ++ ·) else none
termination_by text.length

/-- The tokens that lexemes make up. The brackets that are still open are on a stack with the tokens
in front of them, innermost first. -/
def gather : List (Bracket × List Token) → List Token → List Lexeme → Option (List Token)
  | [], tokens, [] => some tokens.reverse
  | _ :: _, _, [] => none
  | stack, tokens, token t :: lexemes => gather stack (t :: tokens) lexemes
  | stack, tokens, opening bracket :: lexemes => gather ((bracket, tokens) :: stack) [] lexemes
  | [], _, closing _ :: _ => none
  | (bracket, outer) :: stack, tokens, closing other :: lexemes =>
    if bracket = other then gather stack (.group bracket tokens.reverse :: outer) lexemes
    else none

end Lexeme

/-- The tokens of a text. -/
def Token.listOfString? (text : String) : Option (List Token) := do
  Lexeme.gather [] [] (← Lexeme.all? text.toList)

end Exemplar
