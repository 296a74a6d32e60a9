import Typeset.Text.Basic

/-!
# Decimal digits

The decimal digits of every script. The ten digits of a script follow one another, so a script
is given by its zero.

## Main definitions

* `Text.digitValue?`: the value of a digit
* `Text.number`: the number that a run of digits denotes
* `Text.shortNumber?`: a number of at most nine digits at the beginning of a text
* `Text.hexDigit?`, `Text.hexNumber?`: hexadecimal digits and numbers

## Main results

* `Text.isDigit_of_core`: the class contains the ASCII digits
* `Text.digitValue_le`: a digit is worth at most nine
-/

namespace Typeset

namespace Text

/-- The zeros of the scripts that have decimal digits. -/
def digitZeros : List Nat :=
  [0x30, 0x660, 0x6F0, 0x7C0, 0x966, 0x9E6, 0xA66, 0xAE6, 0xB66, 0xBE6, 0xC66, 0xCE6, 0xD66,
   0xDE6, 0xE50, 0xED0, 0xF20, 0x1040, 0x1090, 0x17E0, 0x1810, 0x1946, 0x19D0, 0x1A80, 0x1A90,
   0x1B50, 0x1BB0, 0x1C40, 0x1C50, 0xA620, 0xA8D0, 0xA900, 0xA9D0, 0xA9F0, 0xAA50, 0xABF0,
   0xFF10, 0x104A0, 0x10D30, 0x11066, 0x110F0, 0x11136, 0x111D0, 0x112F0, 0x11450, 0x114D0,
   0x11650, 0x116C0, 0x11730, 0x118E0, 0x11950, 0x11C50, 0x11D50, 0x11DA0, 0x16A60, 0x16AC0,
   0x16B50, 0x1D7CE, 0x1D7D8, 0x1D7E2, 0x1D7EC, 0x1D7F6, 0x1E140, 0x1E2F0, 0x1E950, 0x1FBF0]

/-- The value of a decimal digit. -/
def digitValue? (c : Char) : Option Nat :=
  (digitZeros.find? fun z => z ≤ c.toNat && c.toNat < z + 10).map (c.toNat - ·)

/-- Whether a character is a decimal digit of some script. -/
def isDigit (c : Char) : Bool := (digitValue? c).isSome

theorem digitValue_le {c : Char} {n : Nat} (h : digitValue? c = some n) : n ≤ 9 := by
  simp only [digitValue?, Option.map_eq_some_iff] at h
  obtain ⟨z, hz, rfl⟩ := h
  have := List.find?_some hz
  simp only [Bool.and_eq_true, decide_eq_true_eq] at this
  omega

theorem isDigit_of_core {c : Char} (h : c.isDigit) : isDigit c := by
  simp only [Char.isDigit, Bool.and_eq_true, decide_eq_true_eq] at h
  have h1 : 48 ≤ c.toNat := h.1
  have h2 : c.toNat < 58 := Nat.lt_succ_of_le h.2
  simp [isDigit, digitValue?, digitZeros, h1, h2]

/-- The number that a run of digits denotes, the first digit being worth the most. -/
def number (t : Text) : Nat := t.foldl (fun n c => 10 * n + (digitValue? c).getD 0) 0

/-- A run of one to nine digits at the beginning of the text, as a number, and the rest. Longer
runs are refused. -/
def shortNumber? (t : Text) : Option (Nat × Text) :=
  let digits := t.takeWhile isDigit
  if 1 ≤ digits.length && digits.length ≤ 9 then some (number digits, t.dropWhile isDigit)
  else none

/-! ## Hexadecimal digits -/

/-- The value of a hexadecimal digit. -/
def hexDigit? (c : Char) : Option Nat :=
  let n := c.toNat
  if 0x30 ≤ n && n ≤ 0x39 then some (n - 0x30)
  else if 0x41 ≤ n && n ≤ 0x46 then some (n - 0x37)
  else if 0x61 ≤ n && n ≤ 0x66 then some (n - 0x57)
  else none

/-- The number that a run of hexadecimal digits denotes. -/
def hexNumber? (t : Text) : Option Nat :=
  (t.mapM hexDigit?).map (·.foldl (fun n d => 16 * n + d) 0)

end Text

end Typeset
