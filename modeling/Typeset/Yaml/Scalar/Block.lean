import Typeset.Yaml.Source

/-!
# Block scalars

Scalars that consist of the indented lines below `|` or `>`. Below `|` line breaks stand for
themselves; below `>` the break between two lines that begin with no blank becomes a space. A sign
behind the mark says what becomes of the line breaks at the end, a digit how deep the lines are
indented.

## Main definitions

* `Yaml.Block.Header`: the line of the mark
* `Yaml.Block.read`: a block scalar and the source behind it
-/

namespace Typeset.Yaml.Block

/-- The complaint about a block scalar that begins at `start`. -/
def broken (start : Mark) (finding : String) (s : Source) : Problem :=
  .during .tokens "while scanning a block scalar" start finding s.mark

/-- What becomes of the line breaks at the end. -/
inductive Chomping where
  /-- The first stays. -/
  | clip
  /-- None stays. -/
  | strip
  /-- All stay. -/
  | keep
  deriving DecidableEq, Repr

/-- The line of the mark. -/
structure Header where
  chomping : Chomping := .clip
  increment : Option Nat := none
  deriving DecidableEq, Repr

/-- The chomping that a sign asks for. -/
def sign? (s : Source) : Option Chomping :=
  if s.peek = some '+' then some .keep else if s.peek = some '-' then some .strip else none

/-- The digit that comes next. -/
def digit? (s : Source) : Option Nat :=
  s.peek.bind fun c => if c.isDigit then some (c.toNat - 48) else none

/-- The sign and the digit behind the mark, in either order. -/
def indicators (s : Source) : Header × Source :=
  match sign? s, digit? s with
  | some chomping, _ =>
    match digit? s.next with
    | some n => ({ chomping := chomping, increment := some n }, s.advance 2)
    | none => ({ chomping := chomping }, s.next)
  | none, some n =>
    match sign? s.next with
    | some chomping => ({ chomping := chomping, increment := some n }, s.advance 2)
    | none => ({ increment := some n }, s.next)
  | none, none => ({}, s)

/-- Where the digit behind the mark stands: a sign may come before it. -/
def digitPlace (s : Source) : Source := if (sign? s).isSome then s.next else s

/-- The header behind the mark. A comment may follow it; the digit is not zero. -/
def header (start : Mark) (s : Source) : Except Problem (Header × Source) :=
  let (h, r) := indicators s
  if h.increment = some 0 then
    .error
      (broken start "expected indentation indicator in the range 1-9, but found 0" (digitPlace s))
  else if !r.atWordEnd then
    .error
      (broken start
        ("expected chomping or indentation indicators, but found " ++ quotedNext r.peek) r)
  else
    let r := r.skipSpaces.skipComment
    if r.atLineEnd then .ok (h, r.lineBreak.2)
    else
      .error
        (broken start ("expected a comment or a line break, but found " ++ quotedNext r.peek) r)

/-- The line breaks that come next, the deepest column that the spaces between them reach, and the
source behind them. -/
def probeWithin : (fuel : Nat) → (deepest : Nat) → Source → Text × Nat × Source
  | 0, deepest, s => ([], deepest, s)
  | fuel + 1, deepest, s =>
    let s := s.skipSpaces
    let deepest := max deepest s.column
    if s.sees isBreak then
      let (b, s) := s.lineBreak
      let (bs, deepest, s) := probeWithin fuel deepest s
      (b ++ bs, deepest, s)
    else ([], deepest, s)

/-- The line breaks that come next, where at most `indent` columns of each line are spaces. -/
def breaksWithin (indent : Nat) : (fuel : Nat) → Source → Text × Source
  | 0, s => ([], s)
  | fuel + 1, s =>
    let s := s.skipSpacesTo indent
    if s.sees isBreak then
      let (b, s) := s.lineBreak
      let (bs, s) := breaksWithin indent fuel s
      (b ++ bs, s)
    else ([], s)

/-- The line breaks that come next in a scalar indented by `indent`. -/
def breaks (indent : Nat) (s : Source) : Text × Source := breaksWithin indent (s.rest.length + 1) s

/-- Whether another line of a scalar indented by `indent` comes next. -/
def goesOn (indent : Nat) (s : Source) : Bool := s.column = indent && s.peek.isSome

/-- The text of a scalar from one of its lines on: the lines with what the breaks between them stand
for, then the break behind the last line and the breaks after it. `before` are the breaks before the
line. A break is folded only between two lines that begin with no spacer. -/
def linesWithin (folded : Bool) (indent : Nat) :
    (fuel : Nat) → (before : Text) → Source → Text × Text × Text × Source
  | 0, before, s => ([], [], before, s)
  | fuel + 1, before, s =>
    let flush := !s.sees isSpacer
    let (line, s) := s.takeWhile fun c => !isBreak c
    let (b, s) := s.lineBreak
    let (bs, s) := breaks indent s
    if goesOn indent s then
      let joint :=
        if folded && b = ['\n'] && flush && !s.sees isSpacer then
          if bs.isEmpty then [' '] else []
        else b
      let (rest, last, after, s) := linesWithin folded indent fuel bs s
      (before ++ line ++ joint ++ rest, last, after, s)
    else (before ++ line, b, bs, s)

/-- A block scalar, from its mark on. Its lines are indented more deeply than `indent`, the column
of the block that it is in. The blank lines in front count as well when the indentation is found. -/
def read (indent : Int) (s : Source) : Except Problem (Text × Source) := do
  let folded := s.peek = some '>'
  let (h, s) ← header s.mark s.next
  let least := (max 1 (indent + 1)).toNat
  let (before, column, s) :=
    match h.increment with
    | none =>
      let (bs, deepest, s) := probeWithin (s.rest.length + 1) 0 s
      (bs, max least deepest, s)
    | some n =>
      let column := least + n - 1
      let (bs, s) := breaks column s
      (bs, column, s)
  let (t, last, after, s) :=
    if goesOn column s then linesWithin folded column (s.rest.length + 1) before s
    else ([], [], before, s)
  let last := if h.chomping = .strip then [] else last
  let after := if h.chomping = .keep then after else []
  return (t ++ last ++ after, s)

end Typeset.Yaml.Block
