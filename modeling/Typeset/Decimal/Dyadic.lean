/-!
# Floating-point numbers as exact fractions

A finite floating-point number is a whole number of halves, quarters and so on, or of powers of
two. Decimal texts are computed from this exact value.

## Main definitions

* `Decimal.Dyadic`: a sign, a whole number, and a power of two
* `Decimal.Reading`: a finite number, an infinity, or no number
* `Decimal.ofFloat`: what a floating-point number stands for
* `Decimal.whole?`: the whole number that a floating-point number is
-/

namespace Typeset.Decimal

/-- The number `± mantissa · 2 ^ exponent`. -/
structure Dyadic where
  negative : Bool
  mantissa : Nat
  exponent : Int
  deriving DecidableEq, Repr

/-- What a floating-point number stands for. -/
inductive Reading where
  | finite (value : Dyadic)
  | infinite (negative : Bool)
  | notANumber
  deriving DecidableEq, Repr

/-- The power `2 ^ n`. -/
def powTwo (n : Nat) : Nat := Nat.pow 2 n

/-- The power `10 ^ n`. -/
def powTen (n : Nat) : Nat := Nat.pow 10 n

/-- What the bits of a floating-point number stand for: a sign, eleven bits of exponent and
fifty-two bits of fraction. -/
def ofBits (bits : Nat) : Reading :=
  let negative := bits / powTwo 63 % 2 = 1
  let biased : Nat := bits / powTwo 52 % powTwo 11
  let fraction : Nat := bits % powTwo 52
  if biased = 2047 then if fraction = 0 then .infinite negative else .notANumber
  else if biased = 0 then .finite ⟨negative, fraction, -1074⟩
  else .finite ⟨negative, powTwo 52 + fraction, Int.ofNat biased - 1075⟩

/-- What a floating-point number stands for. -/
def ofFloat (x : Float) : Reading := ofBits x.toBits.toNat

/-- The whole number that a fraction is, if it is one. -/
def Dyadic.whole? (d : Dyadic) : Option Int :=
  let unit := powTwo (-d.exponent).toNat
  let n := d.mantissa * powTwo d.exponent.toNat
  if n % unit = 0 then some (if d.negative then -(n / unit : Nat) else (n / unit : Nat)) else none

/-- The whole number that a floating-point number is, if it is one. -/
def whole? (x : Float) : Option Int :=
  match ofFloat x with
  | .finite d => d.whole?
  | _ => none

/-- The fraction `mantissa · 2 ^ exponent · 10 ^ places`, as a numerator and a denominator. -/
def Dyadic.scaled (d : Dyadic) (places : Nat) : Nat × Nat :=
  (d.mantissa * powTwo d.exponent.toNat * powTen places, powTwo (-d.exponent).toNat)

end Typeset.Decimal
