import Typeset.Text.Digit
import Typeset.Yaml.Content
import Typeset.Yaml.Source

/-!
# Quoted scalars

Scalars between single or double quotes. Between single quotes, a quote is written twice; between
double quotes, a backslash begins an escape. In both, a line break with the blanks around it is
folded into a space, and further line breaks stand for themselves.

## Main definitions

* `Yaml.Quoted.read`: a quoted scalar and the source behind it
-/

namespace Typeset.Yaml.Quoted

/-- The code points of a text. -/
def codesOf (t : Text) : List Nat := t.map Char.toNat

/-- The complaint about the inside of a quoted scalar that begins at `start`. -/
def broken (start : Mark) (finding : String) (s : Source) : Problem :=
  .during .tokens "while scanning a quoted scalar" start finding s.mark

/-- The complaint about an escape in a scalar that begins at `start`. -/
def badEscape (start : Mark) (finding : String) (s : Source) : Problem :=
  .during .tokens "while scanning a double-quoted scalar" start finding s.mark

/-- The line breaks that come next, with the blanks before each line. A mark between documents is
not allowed here. -/
def breaksWithin (start : Mark) : (fuel : Nat) → Source → Except Problem (Text × Source)
  | 0, s => .ok ([], s)
  | fuel + 1, s =>
    if s.seesSeparator then .error (broken start "found unexpected document separator" s)
    else
      let s := s.skipWhile isSpacer
      if s.sees isBreak then do
        let (b, s) := s.lineBreak
        let (bs, s) ← breaksWithin start fuel s
        return (b ++ bs, s)
      else .ok ([], s)

/-- The line breaks that come next. -/
def breaks (start : Mark) (s : Source) : Except Problem (Text × Source) :=
  breaksWithin start (s.rest.length + 1) s

/-- What a gap inside a scalar stands for. -/
def gap (start : Mark) (s : Source) : Except Problem (Text × Source) :=
  let (blanks, s) := s.takeWhile isSpacer
  match s.peek with
  | none => .error (broken start "found unexpected end of stream" s)
  | some c =>
    if isBreak c then do
      let (b, s) := s.lineBreak
      let (bs, s) ← breaks start s
      let first := if b ≠ ['\n'] then b else if bs.isEmpty then [' '] else []
      return (first ++ bs, s)
    else .ok (blanks, s)

/-- The characters that one letter behind a backslash stands for. -/
def escapes : List (Char × Char) :=
  [('0', '\x00'), ('a', '\x07'), ('b', '\x08'), ('t', '\t'), ('\t', '\t'), ('n', '\n'),
    ('v', '\x0b'), ('f', '\x0c'), ('r', '\r'), ('e', '\x1b'), (' ', ' '), ('"', '"'),
    ('\\', '\\'), ('/', '/'), ('N', '\x85'), ('_', '\xa0'), ('L', '\u2028'), ('P', '\u2029')]

/-- The number of hexadecimal digits behind a letter behind a backslash. -/
def escapeLengths : List (Char × Nat) := [('x', 2), ('u', 4), ('U', 8)]

/-- The number that exactly `count` hexadecimal digits at the beginning of a text denote. In place
of a number there may be the first character that is no digit. -/
def hexNumber (count : Nat) (t : Text) : Except (Option Char) Nat :=
  let digits := t.take count
  match Text.hexNumber? digits with
  | some n => if digits.length < count then .error none else .ok n
  | none => .error (digits.find? fun c => (Text.hexDigit? c).isNone)

/-- The code point with a number. There are as many as there are, and numbers from two thousand
millions on are not even looked at. -/
def codePoint (n : Nat) : Except Problem Nat :=
  if n < 0x110000 then .ok n
  else .error (.misfit (if n < 0x80000000 then .value else .size))

/-- The code points that the escape behind a backslash stands for. -/
def escape (start : Mark) (s : Source) : Except Problem (List Nat × Source) :=
  match s.peek.bind fun c => escapes.lookup c, s.peek.bind fun c => escapeLengths.lookup c with
  | some d, _ => .ok ([d.toNat], s.next)
  | none, some count =>
    match hexNumber count s.rest.tail with
    | .error c =>
      let finding :=
        "expected escape sequence of " ++ toString count ++ " hexdecimal numbers, but found "
          ++ quotedNext c
      .error (badEscape start finding s.next)
    | .ok n => (codePoint n).map fun n => ([n], s.advance (count + 1))
  | none, none =>
    if s.sees isBreak then (breaks start s.lineBreak.2).map fun (t, s) => (codesOf t, s)
    else .error (badEscape start ("found unknown escape character " ++ quotedNext s.peek) s)

/-- The code points inside a scalar up to its closing quote `q`. -/
def insideWithin (start : Mark) (q : Char) :
    (fuel : Nat) → Source → Except Problem (List Nat × Source)
  | 0, s => .ok ([], s)
  | fuel + 1, s =>
    match s.peek with
    | none => .error (broken start "found unexpected end of stream" s)
    | some c =>
      if isGap c then do
        let (t, s) ← gap start s
        let (r, s) ← insideWithin start q fuel s
        return (codesOf t ++ r, s)
      else if c = q then
        if q = '\'' ∧ s.peekAt 1 = some '\'' then do
          let (r, s) ← insideWithin start q fuel (s.advance 2)
          return (c.toNat :: r, s)
        else .ok ([], s.next)
      else if q = '"' ∧ c = '\\' then do
        let (ns, s) ← escape start s.next
        let (r, s) ← insideWithin start q fuel s
        return (ns ++ r, s)
      else do
        let (r, s) ← insideWithin start q fuel s.next
        return (c.toNat :: r, s)

/-- A quoted scalar, from its opening quote on. -/
def read (s : Source) : Except Problem (Content × Source) := do
  let (codes, r) ← insideWithin s.mark (s.peek.getD '"') (s.rest.length + 1) s.next
  return (.ofCodes codes, r)

end Typeset.Yaml.Quoted
