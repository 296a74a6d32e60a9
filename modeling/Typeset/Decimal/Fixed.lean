import Typeset.Decimal.Dyadic

/-!
# Decimals with a fixed number of places

A number is rounded to the nearest decimal with the given number of places; of two that are
equally near, the one with an even last digit is taken.

## Main definitions

* `Decimal.roundDiv`: the whole number nearest to a fraction
* `Decimal.fixed`: a floating-point number with a fixed number of places
-/

namespace Typeset.Decimal

/-- The whole number nearest to `n / d`; a half goes to the even neighbour. -/
def roundDiv (n d : Nat) : Nat :=
  let q := n / d
  let r := n % d
  if 2 * r < d then q
  else if d < 2 * r then q + 1
  else if q % 2 = 0 then q else q + 1

/-- The digits of `n` in a field of at least `width`, filled up with zeros. -/
def padded (width n : Nat) : String :=
  let digits := toString n
  String.ofList (List.replicate (width - digits.length) '0') ++ digits

/-- The number `n / 10 ^ places` with `places` digits behind the point. -/
def ofUnits (places n : Nat) : String :=
  if places = 0 then toString n
  else toString (n / powTen places) ++ "." ++ padded places (n % powTen places)

/-- The sign of a number, which is written only if it is negative. -/
def sign (negative : Bool) : String := if negative then "-" else ""

/-- A floating-point number with `places` digits behind the point. -/
def fixed (places : Nat) (x : Float) : String :=
  match ofFloat x with
  | .finite d =>
    let (n, den) := d.scaled places
    sign d.negative ++ ofUnits places (roundDiv n den)
  | .infinite negative => sign negative ++ "inf"
  | .notANumber => "nan"

end Typeset.Decimal
