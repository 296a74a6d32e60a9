import Typeset.Text.Basic

/-!
# Regular expressions

The part of regular expressions that has characters, the point, stars behind either, and the two
anchors. A backslash makes a sign stand for itself. A text that holds anything else, such as
brackets, counted repetitions or the classes that a backslash and a letter stand for, is not read.

An expression is held against a text from its beginning, and may leave an end of the text over. The
anchor `$` allows for one line feed behind it.

## Main definitions

* `Expression`: an expression that was read
* `Expression.ofText?`: reading
* `Expression.describes`: whether an expression describes a text
* `Expression.escape`: a text written so that it stands for itself
-/

namespace Typeset

namespace Expression

/-- The characters that one place in an expression stands for. -/
inductive Class where
  /-- Every character other than a line feed. -/
  | any
  | exactly (c : Char)
  deriving DecidableEq, Repr

/-- Whether a character is in a class. -/
def Class.holds : Class → Char → Bool
  | any, c => c != '\n'
  | exactly a, c => a == c

/-- A part of an expression. -/
inductive Item where
  /-- The beginning of the text. -/
  | start
  /-- The end of the text, or a line feed with the end behind it. -/
  | stop
  | one (k : Class)
  /-- Any number of characters of a class. -/
  | many (k : Class)
  deriving DecidableEq, Repr

/-- A sign of an expression. -/
inductive Token where
  | start
  | stop
  | place (k : Class)
  | star
  deriving DecidableEq, Repr

end Expression

/-- A regular expression. -/
structure Expression where
  items : List Expression.Item
  deriving DecidableEq, Repr

namespace Expression

/-! ## Reading -/

/-- The sign that a character stands for by itself. -/
def Token.ofChar? (c : Char) : Option Token :=
  if c = '^' then some .start
  else if c = '$' then some .stop
  else if c = '.' then some (.place .any)
  else if c = '*' then some .star
  else if c ∈ "\\+?|()[]\x7b\x7d".toList then none
  else some (.place (.exactly c))

/-- The signs of a text. A backslash in front of a letter or a digit stands for something else. -/
def tokens? : Text → Option (List Token)
  | [] => some []
  | '\\' :: c :: t =>
    if c.isAlphanum then none else (tokens? t).map (.place (.exactly c) :: ·)
  | c :: t =>
    match Token.ofChar? c with
    | none => none
    | some k => (tokens? t).map (k :: ·)

/-- The parts that signs make up. A star belongs to the place in front of it. -/
def items? : List Token → Option (List Item)
  | [] => some []
  | .start :: ts => (items? ts).map (.start :: ·)
  | .stop :: ts => (items? ts).map (.stop :: ·)
  | .place k :: .star :: ts => (items? ts).map (.many k :: ·)
  | .place k :: ts => (items? ts).map (.one k :: ·)
  | .star :: _ => none

/-- The expression that a text is. -/
def ofText? (t : Text) : Option Expression := ((tokens? t).bind items?).map .mk

/-! ## Describing texts -/

/-- Whether a text begins with what the parts describe; `atStart` says whether it is still whole. -/
def accepts : (atStart : Bool) → List Item → Text → Bool
  | _, [], _ => true
  | atStart, .start :: is, t => atStart && accepts atStart is t
  | atStart, .stop :: is, t => (t = [] || t = ['\n']) && accepts atStart is t
  | _, .one _ :: _, [] => false
  | _, .one k :: is, c :: t => k.holds c && accepts false is t
  | atStart, .many _ :: is, [] => accepts atStart is []
  | atStart, .many k :: is, c :: t =>
    accepts atStart is (c :: t) || (k.holds c && accepts false (.many k :: is) t)

/-- Whether a text begins with what the expression describes. -/
def describes (e : Expression) (t : Text) : Bool := accepts true e.items t

/-! ## Writing texts that stand for themselves -/

/-- The characters that are written with a backslash in front. -/
def isSpecial (c : Char) : Bool :=
  c ∈ "()[]\x7b\x7d?*+-|^$\\.&~# \t\n\r\x0b\x0c".toList

/-- A character written so that it stands for itself. -/
def escapeChar (c : Char) : Text := if isSpecial c then ['\\', c] else [c]

/-- A text written so that it stands for itself. -/
def escape (t : Text) : Text := t.flatMap escapeChar

end Expression

end Typeset
