import Typeset.Text.Basic

/-!
# Reading decimals

A decimal text as a floating-point number: an optional sign, digits with or without a point, and an
optional exponent.

## Main definitions

* `Decimal.ofScientific`: the floating-point number nearest to `digits · 10 ^ exponent`
* `Decimal.ofNat?`: the floating-point number nearest to a whole number
* `Decimal.parse?`: the number that a text denotes
-/

namespace Typeset.Decimal

/-- The floating-point number nearest to `digits · 10 ^ exponent`. Numbers beyond the range of
floating-point numbers are not computed. -/
def ofScientific (digits : Nat) (exponent : Int) : Float :=
  let size := exponent + (toString digits).length
  if digits = 0 || size < -400 then 0
  else if 400 < size then 1 / 0
  else if exponent < 0 then Float.ofScientific digits true exponent.natAbs
  else Float.ofScientific digits false exponent.natAbs

/-- The floating-point number nearest to a whole number, unless that is beyond their range. -/
def ofNat? (n : Nat) : Option Float :=
  let x := ofScientific n 0
  if x.isInf then none else some x

/-- The number that a run of ASCII digits denotes. -/
def ofDigits (t : Text) : Nat := t.foldl (fun n c => 10 * n + (c.toNat - 48)) 0

/-- The sign at the beginning of a text, as whether it is a minus, and the rest. -/
def takeSign : Text → Bool × Text
  | '-' :: t => (true, t)
  | '+' :: t => (false, t)
  | t => (false, t)

/-- The exponent that a text consists of; an empty text is none. -/
def exponent? : Text → Option Int
  | [] => some 0
  | e :: t =>
    let (negative, digits) := takeSign t
    if (e = 'e' || e = 'E') && !digits.isEmpty && digits.all Char.isDigit then
      let n : Int := ofDigits digits
      some (if negative then -n else n)
    else none

/-- The number that a text without a sign denotes. -/
def magnitude? (t : Text) : Option Float :=
  let whole := t.takeWhile Char.isDigit
  let rest := t.dropWhile Char.isDigit
  let (fraction, rest) :=
    match rest with
    | '.' :: r => (r.takeWhile Char.isDigit, r.dropWhile Char.isDigit)
    | r => ([], r)
  if whole.isEmpty && fraction.isEmpty then none
  else
    (exponent? rest).map fun e => ofScientific (ofDigits (whole ++ fraction)) (e - fraction.length)

/-- The number that a text denotes. -/
def parse? (t : Text) : Option Float :=
  let (negative, body) := takeSign t
  (magnitude? body).map fun x => if negative then -x else x

end Typeset.Decimal
