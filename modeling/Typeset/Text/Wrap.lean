import Typeset.Text.Blank
import Typeset.Text.Cells

/-!
# Wrapping

Texts in a column of a given number of cells. Lines are broken before words; a word that is wider
than the column is either cut up or left on a line of its own. A line that is still too wide is
shortened to fit.

## Main definitions

* `Text.Overflow`: what happens to a line that is too wide
* `Text.wrap`: the lines of a paragraph
* `Text.align`: a line at one side of its column
-/

namespace Typeset

namespace Text

/-- What happens to a line that is too wide: it is cut, or it is cut one cell earlier and ends in
an ellipsis. -/
inductive Overflow where
  | cut
  | ellipsis
  deriving DecidableEq, Repr

/-- The line, shortened if it is too wide. -/
def shorten (o : Overflow) (width : Nat) (t : Text) : Text :=
  if cellCount t ≤ width then t
  else
    match o with
    | .cut => takeCells width t
    | .ellipsis => takeCells (width - 1) t ++ ['…']

/-- The pieces of a paragraph, each a word with the blanks behind it. The blanks in front of the
first word belong to its piece. -/
def piecesFrom : (inBlanks : Bool) → Text → Text × List Text
  | _, [] => ([], [])
  | inBlanks, c :: t =>
    if isBlank c then
      let (w, ws) := piecesFrom true t
      (c :: w, ws)
    else
      let (w, ws) := piecesFrom false t
      if inBlanks then ([], (c :: w) :: ws) else (c :: w, ws)

/-- The pieces of a paragraph. -/
def pieces (t : Text) : List Text :=
  let (first, rest) := piecesFrom false (trimLeft t)
  (t.takeWhile isBlank ++ first) :: rest

/-- A word, given by its clusters, in parts of at most `width` cells; the first `used` cells of the
first part are taken. -/
def partsFrom (width : Nat) : (used : Nat) → List Cluster → Text × List Text
  | _, [] => ([], [])
  | used, c :: cs =>
    if used + c.cells ≤ width then
      let (p, ps) := partsFrom width (used + c.cells) cs
      (c.text ++ p, ps)
    else
      let (p, ps) := partsFrom width c.cells cs
      ([], (c.text ++ p) :: ps)

/-- Lines under way: those that are complete, the one that is being filled, and the cells that the
pieces on it take. -/
structure Filling where
  complete : List Text := []
  line : Text := []
  used : Nat := 0

namespace Filling

/-- Goes on with a new line, unless nothing has been written yet. -/
def breakLine (f : Filling) : Filling :=
  if f.line.isEmpty then f else { complete := f.complete ++ [f.line] }

/-- Writes a piece on a line of its own. -/
def start (f : Filling) (piece : Text) : Filling :=
  { f.breakLine with line := piece, used := cellCount piece }

/-- Writes a piece of a paragraph where it fits. -/
def write (o : Overflow) (width : Nat) (f : Filling) (piece : Text) : Filling :=
  let word := cellCount (trimRight piece)
  if f.used + word ≤ width then
    { f with line := f.line ++ piece, used := f.used + cellCount piece }
  else if word ≤ width then f.start piece
  else
    match o with
    | .ellipsis => f.start piece
    | .cut =>
      let (first, rest) := partsFrom width 0 (clusters piece)
      rest.foldl start (f.start first)

/-- All lines. -/
def lines (f : Filling) : List Text := f.complete ++ [f.line]

end Filling

/-- The line without as many blanks at its end as there are characters too many. -/
def dropExcess (width : Nat) (t : Text) : Text :=
  let blanks := (takeEnd isBlank t).length
  t.take (t.length - min blanks (t.length - width))

/-- The lines of a paragraph in a column. -/
def wrap (o : Overflow) (width : Nat) (t : Text) : List Text :=
  (((pieces t).foldl (Filling.write o width) {}).lines).map (dropExcess width)

/-- The side of its column at which a line stands. -/
inductive Alignment where
  | left
  | center
  | right
  deriving DecidableEq, Repr

/-- The line with spaces behind it up to the width of its column. -/
def fill (width : Nat) (t : Text) : Text := t ++ spaces (width - cellCount t)

/-- The line in a column, with spaces around it that put it in its place. -/
def align (a : Alignment) (o : Overflow) (width : Nat) (t : Text) : Text :=
  match a with
  | .left => fill width (shorten o width t)
  | .center =>
    let t := shorten o width (trimRight t)
    fill width (spaces ((width - cellCount t) / 2) ++ t)
  | .right =>
    let t := shorten o width (trimRight t)
    spaces (width - cellCount t) ++ t

end Text

end Typeset
