import Exemplar.Text.Space
import Exemplar.Token.Basic

/-!
Literals are texts in double quotes, raw texts whose quotes are fenced by number signs, texts of
bytes, characters in single quotes, and numbers. A word that follows a literal immediately is its
suffix. A literal is read off the beginning of a text, and what is behind it is left.
-/

set_option autoImplicit false
set_option relaxedAutoImplicit false

namespace Exemplar

/-- White space between tokens, which includes the two marks of writing direction. -/
def isBlank (c : Char) : Bool :=
  Text.isSpace c || c = '\u200e' || c = '\u200f'

/-- The characters of words. Beyond ASCII these are all that are not blank. -/
def isWordChar (c : Char) : Bool :=
  c.isAlphanum || c = '_' || (0x80 ≤ c.toNat && !isBlank c)

/-- The characters that words begin with. -/
def isWordStart (c : Char) : Bool :=
  isWordChar c && !c.isDigit

namespace Literal

/-- The text behind the suffix of a literal. -/
def withoutSuffix : List Char → List Char
  | [] => []
  | c :: cs => if isWordStart c then cs.dropWhile isWordChar else c :: cs

/-- The value of a hexadecimal digit. -/
def hexDigit? (c : Char) : Option Nat :=
  if c.isDigit then some (c.toNat - '0'.toNat)
  else if 'a' ≤ c && c ≤ 'f' then some (c.toNat - 'a'.toNat + 10)
  else if 'A' ≤ c && c ≤ 'F' then some (c.toNat - 'A'.toNat + 10)
  else none

/-- The character that an escape of one letter stands for. -/
def escaped? (c : Char) : Option Char :=
  if c = 'n' then some '\n'
  else if c = 'r' then some '\r'
  else if c = 't' then some '\t'
  else if c = '0' then some '\x00'
  else if c = '\\' || c = '\x22' || c = '\x27' then some c
  else none

/-- Where in a quoted text reading has come: between characters, behind a line break that does not
count, or within the code point of an escape. -/
inductive Place
  | between
  | indentation
  | codePoint (value : Nat)
  deriving DecidableEq

/-- The blanks that are left out behind a backslash at the end of a line. -/
def isIndentation (c : Char) : Bool :=
  c = ' ' || c = '\t' || c = '\n' || c = '\r'

/-- The content of a text up to the closing quote, and what is behind the quote. A backslash at the
end of a line leaves out the line break and the indentation of the next line. -/
def readQuoted : Place → List Char → List Char → Option (List Char × List Char)
  | _, _, [] => none
  | .codePoint value, content, c :: cs =>
    if c = '\x7d' then readQuoted .between (Char.ofNat value :: content) cs
    else if c = '_' then readQuoted (.codePoint value) content cs
    else
      match hexDigit? c with
      | some digit => readQuoted (.codePoint (16 * value + digit)) content cs
      | none => none
  | place, content, c :: cs =>
    if c = '\x22' then some (content.reverse, cs)
    else if place = .indentation && isIndentation c then readQuoted .indentation content cs
    else if c = '\r' then
      match cs with
      | '\n' :: cs => readQuoted .between ('\n' :: content) cs
      | _ => none
    else if c = '\\' then
      match cs with
      | '\n' :: cs => readQuoted .indentation content cs
      | '\r' :: '\n' :: cs => readQuoted .indentation content cs
      | 'u' :: '\x7b' :: cs => readQuoted (.codePoint 0) content cs
      | 'x' :: high :: low :: cs =>
        match hexDigit? high, hexDigit? low with
        | some m, some n => readQuoted .between (Char.ofNat (16 * m + n) :: content) cs
        | _, _ => none
      | d :: cs =>
        match escaped? d with
        | some e => readQuoted .between (e :: content) cs
        | none => none
      | [] => none
    else readQuoted .between (c :: content) cs
termination_by structural _ _ text => text

/-- The content of a raw text up to the quote with the same number signs behind it as in front. -/
def readFenced (fence content : List Char) : List Char → Option (List Char × List Char)
  | [] => none
  | c :: cs =>
    if c = '\x22' && fence.isPrefixOf cs then some (content.reverse, cs.drop fence.length)
    else readFenced fence (c :: content) cs

/-- The content of a raw text, whose number signs and quote come first. -/
def readRaw (text : List Char) : Option (List Char × List Char) :=
  let fence := text.takeWhile (· = '#')
  match text.drop fence.length with
  | '\x22' :: cs => readFenced fence [] cs
  | _ => none

/-- What is behind a character and its closing quote. -/
def readCharacter : List Char → Option (List Char)
  | '\\' :: 'u' :: '\x7b' :: cs =>
    match cs.dropWhile (· ≠ '\x7d') with
    | '\x7d' :: '\x27' :: rest => some rest
    | _ => none
  | '\\' :: 'x' :: _ :: _ :: '\x27' :: rest => some rest
  | '\\' :: _ :: '\x27' :: rest => some rest
  | c :: '\x27' :: rest => if c = '\\' then none else some rest
  | _ => none

/-- The characters of digits in groups. -/
def isDigitOrGap (c : Char) : Bool :=
  c.isDigit || c = '_'

/-- The exponent behind its letter, and what is behind it. An exponent without digits is none. -/
def readExponent (text : List Char) : Option (List Char × List Char) :=
  let gap := text.takeWhile (· = '_')
  let rest := text.dropWhile (· = '_')
  let sign := (rest.take 1).filter fun c ↦ c = '+' || c = '-'
  let rest := rest.drop sign.length
  let digits := rest.takeWhile isDigitOrGap
  if digits.any Char.isDigit then
    some (gap ++ sign ++ digits, rest.dropWhile isDigitOrGap)
  else none

/-- The exponent with its letter at the beginning of a text, and what is behind it. -/
def readScaling : List Char → Option (List Char × List Char)
  | [] => none
  | c :: cs =>
    if c = 'e' || c = 'E' then (readExponent cs).map fun (exponent, rest) ↦ (c :: exponent, rest)
    else none

/-- A number with a point or an exponent, and what is behind it. The point belongs to the number
unless a word or another point follows it. -/
def readFloating (text : List Char) : Option (List Char × List Char) :=
  let whole := text.takeWhile isDigitOrGap
  match text.dropWhile isDigitOrGap with
  | '.' :: rest =>
    if (rest.take 1).any fun c ↦ c = '.' || isWordStart c then none
    else
      let mantissa := whole ++ '.' :: rest.takeWhile isDigitOrGap
      let rest := rest.dropWhile isDigitOrGap
      match readScaling rest with
      | some (scaling, rest) => some (mantissa ++ scaling, rest)
      | none => some (mantissa, rest)
  | rest => (readScaling rest).map fun (scaling, rest) ↦ (whole ++ scaling, rest)

/-- The digits of an integer in a base, and what is behind them. There is at least one digit, and
none is too large for the base. -/
def readDigits (base : Nat) (text : List Char) : Option (List Char × List Char) :=
  let isPart := fun c ↦ c = '_' || c.isDigit || (hexDigit? c).any (· < base)
  let digits := text.takeWhile isPart
  if (digits.any (· ≠ '_')) && digits.all fun c ↦ (hexDigit? c).all (· < base) then
    some (digits, text.dropWhile isPart)
  else none

/-- An integer, and what is behind it. -/
def readInteger : List Char → Option (List Char × List Char)
  | '0' :: 'x' :: cs => (readDigits 16 cs).map fun (digits, rest) ↦ ('0' :: 'x' :: digits, rest)
  | '0' :: 'o' :: cs => (readDigits 8 cs).map fun (digits, rest) ↦ ('0' :: 'o' :: digits, rest)
  | '0' :: 'b' :: cs => (readDigits 2 cs).map fun (digits, rest) ↦ ('0' :: 'b' :: digits, rest)
  | cs => readDigits 10 cs

/-- A number with its suffix, and what is behind it. -/
def readNumber (text : List Char) : Option (Literal × List Char) :=
  (readFloating text <|> readInteger text).map fun (digits, rest) ↦
    let suffix := if (rest.take 1).any isWordStart then rest.takeWhile isWordChar else []
    (number (String.ofList (digits ++ suffix)), rest.drop suffix.length)

/-- A text as it was read, and what is behind its suffix. -/
def ofContent : List Char × List Char → Literal × List Char
  | (content, rest) => (text (String.ofList content), withoutSuffix rest)

/-- Another literal, and what is behind its suffix. -/
def ofRest (rest : List Char) : Literal × List Char :=
  (other, withoutSuffix rest)

/-- The literal at the beginning of a text, and what is behind it. -/
def read? : List Char → Option (Literal × List Char)
  | '\x22' :: cs => (readQuoted .between [] cs).map ofContent
  | '\x27' :: cs => (readCharacter cs).map ofRest
  | 'r' :: cs => (readRaw cs).map ofContent
  | 'b' :: '\x22' :: cs => (readQuoted .between [] cs).map fun read ↦ ofRest read.2
  | 'b' :: '\x27' :: cs => (readCharacter cs).map ofRest
  | 'b' :: 'r' :: cs => (readRaw cs).map fun read ↦ ofRest read.2
  | 'c' :: '\x22' :: cs => (readQuoted .between [] cs).map fun read ↦ ofRest read.2
  | 'c' :: 'r' :: cs => (readRaw cs).map fun read ↦ ofRest read.2
  | c :: cs => if c.isDigit then readNumber (c :: cs) else none
  | [] => none

end Literal

end Exemplar
