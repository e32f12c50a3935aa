import Exemplar.Text.Extender
import Exemplar.Text.Printable

/-!
Quoted text shows every character visibly. Within the quotes the quote itself, the backslash and
four controls have short escapes, and a character without a glyph of its own is written by its code
point. Texts stand between double quotes and single characters between single ones, and only the
quote in use is escaped.
-/

set_option autoImplicit false
set_option relaxedAutoImplicit false

namespace Exemplar.Text

/-- The code point of a character, as an escape. -/
def codePointEscape (c : Char) : List Char :=
  ['\\', 'u', '\x7b'] ++ Nat.toDigits 16 c.toNat ++ ['\x7d']

/-- One character between quotes. -/
def escape (quote c : Char) : List Char :=
  if c = '\x00' then ['\\', '0']
  else if c = '\t' then ['\\', 't']
  else if c = '\r' then ['\\', 'r']
  else if c = '\n' then ['\\', 'n']
  else if c = '\\' || c = quote then ['\\', c]
  else if isExtender c || !isPrintable c then codePointEscape c
  else [c]

/-- A text between double quotes. -/
def quote (text : String) : String :=
  String.ofList ('\x22' :: text.toList.flatMap (escape '\x22') ++ ['\x22'])

/-- A character between single quotes. -/
def quoteChar (c : Char) : String :=
  String.ofList ('\x27' :: escape '\x27' c ++ ['\x27'])

end Exemplar.Text
