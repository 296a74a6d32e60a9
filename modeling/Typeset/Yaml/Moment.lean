import Typeset.Data.Moment
import Typeset.Decimal.Dyadic
import Typeset.Decimal.Parse
import Typeset.Yaml.Resolve

/-!
# Moments in documents

The moment that a scalar stands for. It has to exist: the day has to be one of its month, and the
distance to the common time is shorter than a day.

## Main definitions

* `Yaml.momentOfParts?`: the moment that the parts of a scalar make up
-/

namespace Typeset.Yaml

open Data (Moment TimeOfDay)

/-- The millionths of a second that the digits of a fraction denote; further digits do not count. -/
def microseconds (fraction : Text) : Nat :=
  let digits := fraction.take 6
  Decimal.ofDigits digits * Decimal.powTen (6 - digits.length)

/-- The distance in minutes that the parts of a zone denote. -/
def distance : Option Char × Text × Text → Int
  | (none, _, _) => 0
  | (some sign, hours, minutes) =>
    let n : Int := 60 * Decimal.ofDigits hours + Decimal.ofDigits minutes
    if sign = '-' then -n else n

/-- The moment that parts make up, if there is such a moment. -/
def momentOfParts? (p : MomentParts) : Option Moment :=
  let year := Decimal.ofDigits p.year
  let month := Decimal.ofDigits p.month
  let day := Decimal.ofDigits p.day
  if year = 0 || day = 0 || Data.daysIn year month < day then none
  else
    match p.time with
    | none => some ⟨year, month, day, none⟩
    | some (hour, minute, second, fraction) =>
      let t : TimeOfDay :=
        ⟨Decimal.ofDigits hour, Decimal.ofDigits minute, Decimal.ofDigits second,
          microseconds fraction, p.zone.map distance⟩
      if t.hour < 24 && t.minute < 60 && t.second < 60 && (t.zone.all fun z => z.natAbs < 1440) then
        some ⟨year, month, day, some t⟩
      else none

end Typeset.Yaml
