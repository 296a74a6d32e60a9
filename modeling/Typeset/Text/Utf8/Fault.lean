import Typeset.Text.Quoted
import Typeset.Text.Utf8

/-!
# Faults in UTF-8

Where bytes that should hold a text go wrong first, and why.

## Main definitions

* `Text.Utf8.firstFault?`: the first fault among bytes
* `Text.Utf8.faultText`: the first fault in words
-/

namespace Typeset.Text.Utf8

/-- The first fault among bytes: where it is, the bytes from there on, and those behind it; `place`
is the number of bytes before these. -/
def firstFault? : (place : Nat) → List UInt8 → Option (Nat × List UInt8 × List UInt8)
  | _, [] => none
  | place, b :: bytes =>
    if (next b bytes).1.isNone then some (place, b :: bytes, (next b bytes).2)
    else firstFault? (place + (bytes.length + 1 - (next b bytes).2.length)) (next b bytes).2
termination_by _ bytes => bytes.length
decreasing_by
  have := length_next_le b bytes
  simp only [List.length_cons]
  omega

/-- The reason why the bytes from a fault on hold no character, given those behind the fault. -/
def faultReason (bytes rest : List UInt8) : String :=
  if (bytes.head?.bind lead?).isNone then "invalid start byte"
  else if rest.isEmpty then "unexpected end of data"
  else "invalid continuation byte"

/-- The first fault among bytes in words; empty if there is none. -/
def faultText (bytes : List UInt8) : String :=
  match firstFault? 0 bytes with
  | none => ""
  | some (place, bytes, rest) =>
    let reason := faultReason bytes rest
    let size := bytes.length - rest.length
    let span :=
      if size = 1 then
        "byte 0x" ++ Text.str (hex 2 ((bytes.head?.map UInt8.toNat).getD 0)) ++ " in position "
          ++ toString place
      else "bytes in position " ++ toString place ++ "-" ++ toString (place + size - 1)
    "'utf-8' codec can't decode " ++ span ++ ": " ++ reason

end Typeset.Text.Utf8
