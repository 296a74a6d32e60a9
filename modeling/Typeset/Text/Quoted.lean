import Typeset.Text.Printable

/-!
# Quoted texts

A text between quotes. Single quotes are taken unless the text holds a single quote and no double
quote. The quote in use, the backslash and characters that are not printable are escaped.

## Main definitions

* `Text.hex`: a number in lower-case hexadecimal digits
* `Text.quote`: a text between quotes
-/

namespace Typeset

namespace Text

/-- The number in lower-case hexadecimal digits, filled up with zeros to at least `width`. -/
def hex (width n : Nat) : Text :=
  let digits := Nat.toDigits 16 n
  List.replicate (width - digits.length) '0' ++ digits

/-- The escape of a code point, with as many digits as it needs. -/
def codeEscape (n : Nat) : Text :=
  if n < 0x100 then '\\' :: 'x' :: hex 2 n
  else if n < 0x10000 then '\\' :: 'u' :: hex 4 n
  else '\\' :: 'U' :: hex 8 n

/-- A character between the quotes `q`. -/
def quoteChar (q c : Char) : Text :=
  if c = q ∨ c = '\\' then ['\\', c]
  else if c = '\n' then ['\\', 'n']
  else if c = '\r' then ['\\', 'r']
  else if c = '\t' then ['\\', 't']
  else if isPrintable c then [c]
  else codeEscape c.toNat

/-- The text between quotes. -/
def quote (t : Text) : Text :=
  let q := if '\'' ∈ t ∧ '"' ∉ t then '"' else '\''
  q :: t.flatMap (quoteChar q) ++ [q]

end Text

end Typeset
