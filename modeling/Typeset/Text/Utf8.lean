import Typeset.Text.Basic

/-!
# UTF-8

Reading bytes as text. A sequence of bytes that cannot begin or continue a character is either
refused or shown as one replacement character for each maximal beginning of a character.

## Main definitions

* `Text.Utf8.next`: the character or the fault at the beginning of some bytes
* `Text.Utf8.decode?`: the text, if the bytes are well formed
* `Text.Utf8.decodeLossy`: the text with replacement characters
-/

namespace Typeset.Text.Utf8

/-- The character that stands for bytes which cannot be read. -/
def replacement : Char := '\uFFFD'

/-- The number of continuation bytes behind a first byte, the range of the first of them, and the
bits that the first byte holds; nothing for a byte that begins no character. -/
def lead? (b : UInt8) : Option (Nat × Nat × Nat × Nat) :=
  let n := b.toNat
  if n < 0x80 then some (0, 0, 0, n)
  else if n < 0xC2 then none
  else if n < 0xE0 then some (1, 0x80, 0xBF, n % 0x20)
  else if n = 0xE0 then some (2, 0xA0, 0xBF, 0)
  else if n = 0xED then some (2, 0x80, 0x9F, 0xD)
  else if n < 0xF0 then some (2, 0x80, 0xBF, n % 0x10)
  else if n = 0xF0 then some (3, 0x90, 0xBF, 0)
  else if n < 0xF4 then some (3, 0x80, 0xBF, n % 0x08)
  else if n = 0xF4 then some (3, 0x80, 0x8F, 4)
  else none

/-- Reads `count` continuation bytes, the first between `low` and `high`, and gives the code point,
if all are there, and the rest of the bytes. -/
def continuation : (count : Nat) → (low high code : Nat) → List UInt8 → Option Nat × List UInt8
  | 0, _, _, code, bytes => (some code, bytes)
  | _ + 1, _, _, _, [] => (none, [])
  | count + 1, low, high, code, b :: bytes =>
    if low ≤ b.toNat && b.toNat ≤ high then
      continuation count 0x80 0xBF (code * 0x40 + b.toNat % 0x40) bytes
    else (none, b :: bytes)

theorem length_continuation_le (count low high code : Nat) (bytes : List UInt8) :
    (continuation count low high code bytes).2.length ≤ bytes.length := by
  induction count generalizing low high code bytes with
  | zero => simp [continuation]
  | succ count ih =>
    cases bytes with
    | nil => simp [continuation]
    | cons b bytes =>
      unfold continuation
      split
      · exact Nat.le_succ_of_le (ih ..)
      · simp

/-- The character at the beginning of the bytes, or nothing if they begin with a fault, and the
bytes behind it. -/
def next (b : UInt8) (bytes : List UInt8) : Option Char × List UInt8 :=
  match lead? b with
  | none => (none, bytes)
  | some (count, low, high, code) =>
    let (code, rest) := continuation count low high code bytes
    (code.map Char.ofNat, rest)

theorem length_next_le (b : UInt8) (bytes : List UInt8) :
    (next b bytes).2.length ≤ bytes.length := by
  unfold next
  split
  · simp
  · exact length_continuation_le ..

/-- The characters of the bytes, with nothing in place of each fault. -/
def scan : List UInt8 → List (Option Char)
  | [] => []
  | b :: bytes => (next b bytes).1 :: scan (next b bytes).2
termination_by bytes => bytes.length
decreasing_by
  have := length_next_le b bytes
  simp only [List.length_cons]
  omega

/-- The text that the bytes hold, if they are well formed. -/
def decode? (bytes : List UInt8) : Option Text := (scan bytes).mapM id

/-- The text that the bytes hold, with a replacement character for each fault. -/
def decodeLossy (bytes : List UInt8) : Text := (scan bytes).map (·.getD replacement)

end Typeset.Text.Utf8
