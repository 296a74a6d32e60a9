import Typeset.Yaml.Content
import Typeset.Yaml.Problem

/-!
# Bytes in documents

Bytes are written in base sixty-four: four digits for three bytes, with the sign `=` in place of
missing digits at the end. Characters that are no digits do not count.

## Main definitions

* `Yaml.digit64?`: the value of a digit
* `Yaml.bytes64`: the bytes that digits denote
* `Yaml.readBytes`: a scalar as bytes
-/

namespace Typeset.Yaml

/-- The value of a digit in base sixty-four. -/
def digit64? (c : Char) : Option Nat :=
  let n := c.toNat
  if 65 ≤ n && n ≤ 90 then some (n - 65)
  else if 97 ≤ n && n ≤ 122 then some (n - 71)
  else if 48 ≤ n && n ≤ 57 then some (n + 4)
  else if c = '+' then some 62
  else if c = '/' then some 63
  else none

/-- Why digits denote no bytes. -/
inductive Incomplete where
  /-- A single digit is left over, which is less than a byte; there are `digits` of them. -/
  | lonely (digits : Nat)
  /-- Signs for missing digits are missing themselves. -/
  | unfilled
  deriving DecidableEq, Repr

/-- What is left over in words. -/
def Incomplete.message : Incomplete → String
  | lonely n =>
    "Invalid base64-encoded string: number of data characters (" ++ toString n
      ++ ") cannot be 1 more than a multiple of 4"
  | unfilled => "Incorrect padding"

/-- The bytes that digits denote. In front of them, `whole` groups of four digits were read, and of
the next group `place` digits, `held` of whose bits are not used up yet; `pads` signs for missing
digits came last. -/
def bytes64 (whole place held pads : Nat) : Text → Except Incomplete (List UInt8)
  | [] =>
    if place = 0 then .ok []
    else .error (if place = 1 then .lonely (4 * whole + 1) else .unfilled)
  | c :: t =>
    if c = '=' then
      if 2 ≤ place && 4 ≤ place + pads + 1 then .ok []
      else bytes64 whole place held (if 2 ≤ place then pads + 1 else pads) t
    else
      match digit64? c with
      | none => bytes64 whole place held pads t
      | some d =>
        match place with
        | 0 => bytes64 whole 1 d 0 t
        | 1 => (bytes64 whole 2 (d % 16) 0 t).map ((held * 4 + d / 16).toUInt8 :: ·)
        | 2 => (bytes64 whole 3 (d % 4) 0 t).map ((held * 16 + d / 4).toUInt8 :: ·)
        | _ => (bytes64 (whole + 1) 0 0 0 t).map ((held * 64 + d).toUInt8 :: ·)

/-- Why code points are no ASCII characters: the first run of others. -/
def asciiFault (ns : List Nat) : String :=
  let isAscii (n : Nat) : Bool := n < 128
  let first := (ns.takeWhile isAscii).length
  let run := (ns.dropWhile isAscii).takeWhile fun n => !isAscii n
  let span :=
    match run with
    | [n] => "character '" ++ Text.str (Text.codeEscape n) ++ "' in position " ++ toString first
    | _ =>
      "characters in position " ++ toString first ++ "-" ++ toString (first + run.length - 1)
  "'ascii' codec can't encode " ++ span ++ ": ordinal not in range(128)"

/-- The complaint about a scalar that holds no bytes, which begins at `m`. -/
def noBytes (m : Mark) (finding : String) (kind reason : String) : Problem :=
  .malformed
    { rule := .values
      finding := finding ++ ": " ++ reason
      place := m
      cause := some (kind, reason) }

/-- The bytes that a scalar stands for, which begins at `m`. -/
def readBytes (m : Mark) (c : Content) : Except Problem (List UInt8) :=
  if c.codePoints.any fun n => 128 ≤ n then
    .error
      (noBytes m "failed to convert base64 data into ascii" "UnicodeEncodeError"
        (asciiFault c.codePoints))
  else
    (bytes64 0 0 0 0 c.shown).mapError fun e =>
      noBytes m "failed to decode base64 data" "Error" e.message

end Typeset.Yaml
