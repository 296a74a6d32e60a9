import Typeset.Decimal.Fixed

/-!
# Shortest decimals

A floating-point number is written with the fewest digits that read back as the same number; of
two such digit strings the nearer one is taken. Numbers from one ten-thousandth up to 10¹⁶ are
written positionally and with at least one digit behind the point, all others with an exponent of
at least two digits.

## Main definitions

* `Decimal.Interval`: the numbers that read back as a given one
* `Decimal.shortestDigits`: the digits and the place of the point
* `Decimal.shortest`: the text of a floating-point number
-/

namespace Typeset.Decimal

/-- The numbers that read back as `value`: from `low` to `high`, the ends included if `closed`, all
in units of `2 ^ exponent`. -/
structure Interval where
  low : Nat
  value : Nat
  high : Nat
  exponent : Int
  closed : Bool
  deriving DecidableEq, Repr

/-- The numbers nearer to `d` than to any other floating-point number. Below a power of two the
next number is only half as far away. -/
def Dyadic.interval (d : Dyadic) : Interval where
  low := 4 * d.mantissa - (if d.mantissa = powTwo 52 && d.exponent ≠ -1074 then 1 else 2)
  value := 4 * d.mantissa
  high := 4 * d.mantissa + 2
  exponent := d.exponent - 2
  closed := d.mantissa % 2 = 0

namespace Interval

/-- The numerators of `n · 2 ^ exponent` and `c · 10 ^ e` over a common denominator. -/
def scale (i : Interval) (e : Int) (n c : Nat) : Nat × Nat :=
  (n * powTwo i.exponent.toNat * powTen (-e).toNat,
    c * powTen e.toNat * powTwo (-i.exponent).toNat)

/-- Whether `c · 10 ^ e` reads back as the value. -/
def holds (i : Interval) (e : Int) (c : Nat) : Bool :=
  let (low, x) := i.scale e i.low c
  let (high, _) := i.scale e i.high c
  if i.closed then low ≤ x && x ≤ high else low < x && x < high

/-- The multiple of `10 ^ e` at or below the value. -/
def floor (i : Interval) (e : Int) : Nat :=
  let (value, unit) := i.scale e i.value 1
  value / unit

/-- The multiple of `10 ^ e` that reads back as the value and is nearest to it, if there is one;
of two equally near the even one. -/
def onGrid? (i : Interval) (e : Int) : Option Nat :=
  let c := i.floor e
  match i.holds e c, i.holds e (c + 1) with
  | true, false => some c
  | false, true => some (c + 1)
  | true, true =>
    let (value, unit) := i.scale e i.value 1
    some (roundDiv value unit)
  | false, false => none

/-- The first hit on the grids of `10 ^ e` and the finer ones, of which `count` more are tried. -/
def search (i : Interval) : (count : Nat) → (e : Int) → Option (Nat × Int)
  | 0, _ => none
  | count + 1, e =>
    match i.onGrid? e with
    | some c => some (c, e)
    | none => i.search count (e - 1)

end Interval

/-- The digits and the exponent of the shortest decimal for a number other than zero. The search
starts at a power of ten above the number: the number is below `2 ^ bits`, and that is at most
`10 ^ above`. -/
def shortestDigits (d : Dyadic) : Nat × Int :=
  let bits : Int := d.mantissa.log2 + d.exponent + 1
  let above := (if 0 ≤ bits then bits / 3 else bits / 4) + 1
  (d.interval.search 700 above).getD (0, 0)

/-- The text of the number whose digits `digits` stand behind a point, shifted by `point`
places. -/
def positional (digits : List Char) (point : Int) : String :=
  let zeros (n : Nat) := List.replicate n '0'
  if point ≤ 0 then "0." ++ String.ofList (zeros (-point).toNat ++ digits)
  else
    let n := point.toNat
    let whole := digits.take n ++ zeros (n - digits.length)
    let rest := digits.drop n
    String.ofList whole ++ "." ++ (if rest.isEmpty then "0" else String.ofList rest)

/-- The text of the number whose digits `digits` stand behind a point, shifted by `point` places,
with an exponent. -/
def scientific (digits : List Char) (point : Int) : String :=
  let lead := String.ofList (digits.take 1)
  let rest := digits.drop 1
  let e := point - 1
  lead ++ (if rest.isEmpty then "" else "." ++ String.ofList rest) ++ "e"
    ++ (if e < 0 then "-" else "+") ++ padded 2 e.natAbs

/-- A floating-point number in its shortest form. -/
def shortest (x : Float) : String :=
  match ofFloat x with
  | .finite d =>
    if d.mantissa = 0 then sign d.negative ++ "0.0"
    else
      let (c, e) := shortestDigits d
      let digits := (toString c).toList
      let point : Int := digits.length + e
      sign d.negative
        ++ (if -4 < point && point ≤ 16 then positional digits point else scientific digits point)
  | .infinite negative => sign negative ++ "inf"
  | .notANumber => "nan"

end Typeset.Decimal
