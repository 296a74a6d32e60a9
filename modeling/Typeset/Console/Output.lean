import Typeset.Text.Cells
import Typeset.Text.Lines

/-!
# Output

What a command writes, on two channels: its results, and its remarks. Results are written as they
are, except that the sequences which would colour a terminal are taken out. Remarks go through a
console, which takes out controls, carries out tabs and leaves no spaces at the ends of lines.

## Main definitions

* `Console.Output`: the texts on both channels
* `Console.Output.echo`, `Console.Output.complain`: one line of results or of complaints
* `Console.Output.remark`: a text on the console for remarks
* `Console.stripColours`, `Console.tidy`: what happens to the two kinds of text
-/

namespace Typeset.Console

/-- The texts on both channels. -/
structure Output where
  results : Text := []
  remarks : Text := []
  deriving DecidableEq, Repr

instance : Append Output where
  append a b := ⟨a.results ++ b.results, a.remarks ++ b.remarks⟩

/-- Outputs one after another. -/
def Output.concat (os : List Output) : Output := os.foldl (· ++ ·) {}

/-- The rest of the text behind the inner part of a colour sequence: parameters up to a letter. -/
def afterSequence? (t : Text) : Option Text :=
  match t.dropWhile fun c => c.isDigit || c = ';' || c = '?' with
  | c :: r => if c.isAlpha then some r else none
  | [] => none

/-- The text without the sequences that set colours; `fuel` bounds the number of steps. -/
def stripColoursWithin : (fuel : Nat) → Text → Text
  | 0, t => t
  | _ + 1, [] => []
  | fuel + 1, '\x1b' :: '[' :: r =>
    match afterSequence? r with
    | some r => stripColoursWithin fuel r
    | none => '\x1b' :: stripColoursWithin fuel ('[' :: r)
  | fuel + 1, c :: r => c :: stripColoursWithin fuel r

/-- The text without the sequences that set colours. -/
def stripColours (t : Text) : Text := stripColoursWithin t.length t

/-- Whether a console leaves a character out. -/
def isDropped (c : Char) : Bool :=
  let n := c.toNat
  n = 7 || n = 8 || n = 11 || n = 12 || n = 13

/-- The distance between the stops of a tab. -/
def tabWidth : Nat := 8

/-- The parts of a line between tabs, put together with spaces up to the next stop in place of each
tab; the first part stands behind `column` cells. -/
def joinAtStops : (column : Nat) → List Text → Text
  | _, [] => []
  | _, [last] => last
  | column, part :: parts =>
    let column := column + Text.cellCount (part ++ [' '])
    let gap := (tabWidth - column % tabWidth) % tabWidth
    part ++ [' '] ++ Text.spaces gap ++ joinAtStops (column + gap) parts

/-- A line with spaces in place of its tabs. -/
def expandTabs (line : Text) : Text := joinAtStops 0 (Text.splitOn '\t' line)

/-- The lines of a text as a console shows them. -/
def shownLines (t : Text) : List Text :=
  (Text.splitOn '\n' (t.filter fun c => !isDropped c)).map expandTabs

/-- The text as a console shows it. -/
def tidy (t : Text) : Text :=
  Text.joinWith ['\n'] ((shownLines t).map (Text.dropEnd (· = ' ')))

namespace Output

/-- One line of results. -/
def echo (line : Text) : Output := ⟨stripColours line ++ ['\n'], []⟩

/-- One line of complaints, written like a result. -/
def complain (line : Text) : Output := ⟨[], stripColours line ++ ['\n']⟩

/-- A text on the console for remarks. -/
def remark (t : Text) : Output := ⟨[], tidy t ++ ['\n']⟩

end Output

end Typeset.Console
