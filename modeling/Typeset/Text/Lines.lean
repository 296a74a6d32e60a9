import Typeset.Text.Basic

/-!
# Lines

Three ways of cutting a text into lines: at line feeds (a carriage return before one belongs to
the break), at every Unicode line break, and the reading of text files, in which each of `\r\n`,
`\r` and `\n` ends a line.

## Main definitions

* `Text.logLines`: the pieces between line feeds
* `Text.splitLines`: the lines of a text, at every kind of line break
* `Text.unifyBreaks`: the text with all line ends written as line feeds

## Main results

* `Text.logLines_ne_nil`: there is always at least one piece
* `Text.splitLines_single`: no line holds a line break
-/

namespace Typeset

namespace Text

/-- The line without one carriage return at its end. -/
def dropReturn (t : Text) : Text :=
  if t.getLast? = some '\r' then t.dropLast else t

/-- The pieces of a list of lines, all but the last without a carriage return at the end. -/
def dropReturns : List Text → List Text
  | [] => []
  | [t] => [t]
  | t :: ts => dropReturn t :: dropReturns ts

/-- The pieces of the text between line feeds; a carriage return right before a line feed
belongs to the break. -/
def logLines (t : Text) : List Text := dropReturns (splitOn '\n' t)

theorem dropReturns_ne_nil {ts : List Text} (h : ts ≠ []) : dropReturns ts ≠ [] := by
  match ts with
  | [] => exact absurd rfl h
  | [_] => simp [dropReturns]
  | _ :: _ :: _ => simp [dropReturns]

theorem logLines_ne_nil (t : Text) : logLines t ≠ [] := dropReturns_ne_nil (splitOn_ne_nil _ t)

/-- Whether a character ends a line. -/
def isLineBreak (c : Char) : Bool :=
  let n := c.toNat
  (10 ≤ n && n ≤ 13) || (28 ≤ n && n ≤ 30) || n == 0x85 || n == 0x2028 || n == 0x2029

/-- The text with `\r\n` and `\r` written as `\n`. -/
def unifyBreaks : Text → Text
  | [] => []
  | '\r' :: '\n' :: t => '\n' :: unifyBreaks t
  | c :: t => (if c = '\r' then '\n' else c) :: unifyBreaks t

/-- The lines of the text that starts in the middle of a line with the characters `line`, last
character first. -/
def splitLinesFrom (line : Text) : Text → List Text
  | [] => if line.isEmpty then [] else [line.reverse]
  | '\r' :: '\n' :: t => line.reverse :: splitLinesFrom [] t
  | c :: t =>
    if isLineBreak c then line.reverse :: splitLinesFrom [] t else splitLinesFrom (c :: line) t

/-- The lines of the text, without their line breaks. A line break at the end of the text starts
no further line. -/
def splitLines (t : Text) : List Text := splitLinesFrom [] t

theorem splitLinesFrom_single {line t : Text} (h : ∀ c ∈ line, isLineBreak c = false) :
    ∀ l ∈ splitLinesFrom line t, ∀ c ∈ l, isLineBreak c = false := by
  fun_induction splitLinesFrom line t with
  | case1 => simp
  | case2 line _ => simpa using h
  | case3 line t ih =>
    intro l hl
    rcases List.mem_cons.1 hl with rfl | hl
    · simpa using h
    · exact ih (by simp) l hl
  | case4 line c t _ hc ih =>
    intro l hl
    rcases List.mem_cons.1 hl with rfl | hl
    · simpa using h
    · exact ih (by simp) l hl
  | case5 line c t _ hc ih =>
    refine ih fun d hd => ?_
    rcases List.mem_cons.1 hd with rfl | hd
    · simpa using hc
    · exact h d hd

theorem splitLines_single {t l : Text} (h : l ∈ splitLines t) :
    ∀ c ∈ l, isLineBreak c = false :=
  splitLinesFrom_single (by simp) l h

end Text

end Typeset
