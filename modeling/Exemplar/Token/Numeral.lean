import Exemplar.Token.Literal

/-!
What a number says. An integer has digits in one of four bases and may have a word behind them as
its suffix. A number with a point or an exponent is not an integer.
-/

set_option autoImplicit false
set_option relaxedAutoImplicit false

namespace Exemplar

/-- A number: an integer with or without a suffix, or a number with a point or an exponent. -/
inductive Numeral
  | integer (value : Nat) (isBare : Bool)
  | floating
  deriving DecidableEq

namespace Numeral

/-- Whether an exponent follows its letter: then a sign or a digit is the first character that is
not an underscore. -/
def hasExponent (cs : List Char) : Bool :=
  match cs.find? (· ≠ '_') with
  | some c => c.isDigit || c = '+' || c = '-'
  | none => false

/-- Whether a number of base ten goes on as one with a point or an exponent. -/
def isFloatingTail : List Char → Bool
  | '.' :: _ => true
  | 'e' :: cs => hasExponent cs
  | 'E' :: cs => hasExponent cs
  | _ => false

/-- The integer whose digits go on behind the ones that were read. -/
def ofDigits (base value : Nat) : List Char → Numeral
  | [] => integer value true
  | c :: cs =>
    if c = '_' then ofDigits base value cs
    else
      match Literal.hexDigit? c with
      | some digit =>
        if digit < base then ofDigits base (base * value + digit) cs
        else if base = 10 && isFloatingTail (c :: cs) then floating
        else integer value false
      | none => if base = 10 && isFloatingTail (c :: cs) then floating else integer value false

/-- The number that is written in characters. -/
def ofChars : List Char → Numeral
  | '0' :: 'x' :: cs => ofDigits 16 0 cs
  | '0' :: 'o' :: cs => ofDigits 8 0 cs
  | '0' :: 'b' :: cs => ofDigits 2 0 cs
  | cs => ofDigits 10 0 cs

end Numeral

end Exemplar
