import Typeset.Decimal.Parse
import Typeset.Text.Blank
import Typeset.Text.Digit
import Typeset.Yaml.Problem

/-!
# Numbers in documents

The numbers that scalars stand for. Underscores between digits do not count, digits may be those of
any script, and a number may stand between blanks. Whole numbers are binary, octal, decimal,
hexadecimal or in base sixty; numbers with a point are decimal or in base sixty.

## Main definitions

* `Yaml.wholeIn`: a whole number in a base
* `Yaml.readInt`, `Yaml.readFloat`: scalars as numbers
* `Yaml.isCommonNaN`: whether a scalar is written as the value that is no number
-/

namespace Typeset.Yaml

/-- The text without its underscores. -/
def dropUnderscores (t : Text) : Text := t.filter (· ≠ '_')

/-- Whether a character may stand around a number. Among ASCII characters alone the separator
controls may not. -/
def isMargin (ascii : Bool) (c : Char) : Bool :=
  if ascii then c = ' ' || ('\t' ≤ c && c ≤ '\r') else Text.isBlank c

/-- The text without the blanks that may stand around a number. -/
def dropMargin (t : Text) : Text :=
  let p := isMargin (t.all fun c => c.toNat < 128)
  Text.dropEnd p (t.dropWhile p)

/-- The letter that may announce a base behind a zero. -/
def baseLetter? (base : Nat) : Option Char :=
  if base = 2 then some 'b' else if base = 8 then some 'o' else if base = 16 then some 'x' else none

/-- The digits behind the announcement of a base, if there is one. -/
def dropBase (base : Nat) : Text → Text
  | '0' :: c :: t => if baseLetter? base = some c.toLower then t else '0' :: c :: t
  | t => t

/-- The value of a digit in some base. -/
def digitIn? (base : Nat) (c : Char) : Option Nat :=
  (Text.hexDigit? c <|> Text.digitValue? c).filter (· < base)

/-- The most digits that a decimal number may have. -/
def mostDecimals : Nat := 4300

/-- A whole number in a base, perhaps with a sign, an announcement of the base and blanks around
it. -/
def wholeIn (base : Nat) (t : Text) : Except Problem Int :=
  let (negative, body) := Decimal.takeSign (dropMargin t)
  match (dropBase base body).mapM (digitIn? base) with
  | some (d :: ds) =>
    if base = 10 && mostDecimals < (d :: ds).length then .error (.misfit .value)
    else
      let n : Nat := (d :: ds).foldl (fun n d => base * n + d) 0
      .ok (if negative then -n else n)
  | _ => .error (.misfit .value)

/-- A whole number without its first sign. -/
def readWhole (t : Text) : Except Problem Int :=
  match t with
  | [] => .error (.misfit .nothing)
  | ['0'] => .ok 0
  | '0' :: 'b' :: digits => wholeIn 2 digits
  | '0' :: 'x' :: digits => wholeIn 16 digits
  | '0' :: digits => wholeIn 8 ('0' :: digits)
  | t =>
    if t.contains ':' then do
      let ps ← (Text.splitOn ':' t).mapM (wholeIn 10)
      return ps.foldl (fun n p => 60 * n + p) 0
    else wholeIn 10 t

/-- A whole number. -/
def readInt (t : Text) : Except Problem Int :=
  let t := dropUnderscores t
  if t.isEmpty then .error (.misfit .nothing)
  else
    let (negative, body) := Decimal.takeSign t
    (readWhole body).map fun n => if negative then -n else n

/-- The ASCII digit with the value of a digit; other characters stay. -/
def asciiDigit (c : Char) : Char :=
  match Text.digitValue? c with
  | some d => Char.ofNat (48 + d)
  | none => c

/-- A decimal number, or one of the words for a number beyond all others. -/
def decimalFloat (t : Text) : Except Problem Float :=
  let (negative, body) := Decimal.takeSign (dropMargin t)
  let sign (x : Float) : Float := if negative then -x else x
  let word := Text.str body
  if word = "inf" || word = "infinity" then .ok (sign (1 / 0))
  else if word = "nan" then .ok (0 / 0)
  else
    (Decimal.magnitude? (body.map asciiDigit)).elim (.error (.misfit .value)) fun x => .ok (sign x)

/-- The sum of digits in base sixty, the last of which is worth the most, on top of `sum`; the first
is worth `base`. It fails if the worth of a digit is beyond the range of floating-point numbers. -/
def sixties : (sum : Float) → (base : Nat) → List Float → Except Problem Float
  | sum, _, [] => .ok sum
  | sum, base, d :: ds =>
    match Decimal.ofNat? base with
    | some worth => sixties (sum + d * worth) (base * 60) ds
    | none => .error (.misfit .size)

/-- The text of a number with a point, as it is read: in lower case and without underscores. -/
def floatText (t : Text) : Text := Text.lower (dropUnderscores t)

/-- Whether a scalar is written as the value that is no number. -/
def isCommonNaN (t : Text) : Bool := (Decimal.takeSign (floatText t)).2 == ".nan".toList

/-- A number with a point. -/
def readFloat (t : Text) : Except Problem Float :=
  let t := floatText t
  if t.isEmpty then .error (.misfit .nothing)
  else
    let (negative, body) := Decimal.takeSign t
    let sign (x : Float) : Float := if negative then -x else x
    if body = ".inf".toList then .ok (sign (1 / 0))
    else if body = ".nan".toList then .ok (0 / 0)
    else if body.contains ':' then do
      let ds ← (Text.splitOn ':' body).mapM decimalFloat
      return sign (← sixties 0 1 ds.reverse)
    else (decimalFloat body).map sign

end Typeset.Yaml
