import Typeset.Text.Basic
import Typeset.Yaml.Problem

/-!
# Sources

A text that is being read, and the place that the reading has come to: the number of characters
read so far, the line and the column. Lines end at line feeds, carriage returns, and at the three
line breaks of Unicode beyond ASCII.

## Main definitions

* `Yaml.Source`, `Yaml.Source.mark`: the rest of a text and the place where it begins
* `Yaml.Source.next`, `Yaml.Source.advance`: moving on
* `Yaml.Source.takeWhile`: a run of characters of one class
* `Yaml.Source.lineBreak`: a line break

## Main results

* `Yaml.Source.rest_advance`: moving on drops characters
-/

namespace Typeset.Yaml

/-- The rest of a text that is being read, and the place where the rest begins. -/
structure Source where
  rest : Text
  index : Nat := 0
  line : Nat := 0
  column : Nat := 0
  deriving Repr

/-- Whether a character is a line break. -/
def isBreak (c : Char) : Bool :=
  c = '\n' || c = '\r' || c = '\x85' || c = '\u2028' || c = '\u2029'

/-- Whether a character is a space, a tab or a line break. -/
def isGap (c : Char) : Bool := c = ' ' || c = '\t' || isBreak c

/-- Whether a character is a blank inside a line. -/
def isSpacer (c : Char) : Bool := c = ' ' || c = '\t'

/-- The mark that a text may begin with and that takes no room. -/
def byteOrderMark : Char := '\uFEFF'

namespace Source

/-- The place where the rest begins. -/
def mark (s : Source) : Mark := ⟨s.index, s.line, s.column⟩

/-- The next character. -/
def peek (s : Source) : Option Char := s.rest.head?

/-- The character `n` places ahead. -/
def peekAt (s : Source) (n : Nat) : Option Char := s.rest[n]?

/-- Whether the character `n` places ahead has a property; the end of the text has it as well. -/
def holdsOrEnds (s : Source) (n : Nat) (p : Char → Bool) : Bool := (s.peekAt n).all p

/-- Whether the next character has a property; the end of the text has none. -/
def sees (s : Source) (p : Char → Bool) : Bool := s.peek.any p

/-- Whether a gap or the end of the text lies `n` places ahead. -/
def gapAt (s : Source) (n : Nat) : Bool := s.holdsOrEnds n isGap

/-- Whether a line break or the end of the text comes next. -/
def atLineEnd (s : Source) : Bool := s.holdsOrEnds 0 isBreak

/-- Whether a space, a line break or the end of the text comes next. -/
def atWordEnd (s : Source) : Bool := s.holdsOrEnds 0 fun c => c = ' ' || isBreak c

/-- The source behind its next character. -/
def next (s : Source) : Source :=
  match s.rest with
  | [] => s
  | c :: r =>
    if isBreak c && !(c = '\r' && r.head? = some '\n') then
      ⟨r, s.index + 1, s.line + 1, 0⟩
    else ⟨r, s.index + 1, s.line, if c = byteOrderMark then s.column else s.column + 1⟩

/-- The source behind its next `n` characters. -/
def advance : (n : Nat) → Source → Source
  | 0, s => s
  | n + 1, s => advance n s.next

/-- The longest run of characters with a property, and the source behind it. -/
def takeWhile (p : Char → Bool) (s : Source) : Text × Source :=
  let run := s.rest.takeWhile p
  (run, s.advance run.length)

/-- The source behind the longest run of characters with a property. -/
def skipWhile (p : Char → Bool) (s : Source) : Source := (s.takeWhile p).2

/-- The source behind its next spaces. -/
def skipSpaces (s : Source) : Source := s.skipWhile (· = ' ')

/-- The source behind its next spaces, as far as the column `column`. -/
def skipSpacesTo (column : Nat) (s : Source) : Source :=
  let run := s.rest.takeWhile (· = ' ')
  s.advance (min run.length (column - s.column))

/-- The line break that comes next, if there is one, and the source behind it. The breaks of old
become line feeds. -/
def lineBreak (s : Source) : Text × Source :=
  match s.rest with
  | '\r' :: '\n' :: _ => (['\n'], s.advance 2)
  | c :: _ =>
    if c = '\u2028' || c = '\u2029' then ([c], s.next)
    else if isBreak c then (['\n'], s.next)
    else ([], s)
  | [] => ([], s)

/-- The source behind a comment that comes next, if there is one. -/
def skipComment (s : Source) : Source :=
  if s.peek = some '#' then s.skipWhile fun c => !isBreak c else s

/-- Whether three given characters with a gap behind them come next. -/
def seesMark (mark : Text) (s : Source) : Bool := Text.beginsWith mark s.rest && s.gapAt mark.length

/-- The mark that starts a document. -/
def startMark : Text := ['-', '-', '-']

/-- The mark that ends a document. -/
def endMark : Text := ['.', '.', '.']

/-- Whether a mark between documents comes next. -/
def seesSeparator (s : Source) : Bool := s.seesMark startMark || s.seesMark endMark

theorem rest_next (s : Source) : s.next.rest = s.rest.drop 1 := by
  unfold next
  split
  · next h => simp [h]
  · next c r h => split <;> simp [h]

theorem rest_advance (n : Nat) (s : Source) : (advance n s).rest = s.rest.drop n := by
  induction n generalizing s with
  | zero => rfl
  | succ n ih => rw [advance, ih, rest_next, List.drop_drop, Nat.add_comm]

theorem takeWhile_append_rest (p : Char → Bool) (s : Source) :
    (s.takeWhile p).1 ++ (s.takeWhile p).2.rest = s.rest := by
  simp only [takeWhile, rest_advance]
  generalize s.rest = t
  induction t with
  | nil => rfl
  | cons c t ih => by_cases h : p c <;> simp [h, ih]

end Source

end Typeset.Yaml
