import Typeset.Config.Basic
import Typeset.Text.Blank
import Typeset.Text.Lines
import Typeset.Text.Word

/-!
# Magic comments

A document may ask for an engine in a comment such as `% !TEX program = xelatex`, in upper or lower
case, among the blank lines and comments that it begins with.

## Main definitions

* `MagicComment.program?`: the program that a line asks for
* `MagicComment.header`: the lines that may ask for one
* `MagicComment.engine?`: the engine that a document asks for

## Main results

* `MagicComment.engine?_header`: only the header counts
-/

namespace Typeset.MagicComment

/-- Whether two letters differ at most in case. The long `s` is an `s` as well. -/
def sameLetter (a c : Char) : Bool :=
  let fold (c : Char) : Char := if c = 'ſ' then 's' else c.toLower
  fold a = fold c

/-- The rest of the text after a word in upper or lower case. -/
def afterWord? : (word : Text) → Text → Option Text
  | [], t => some t
  | _ :: _, [] => none
  | a :: word, c :: t => if sameLetter a c then afterWord? word t else none

/-- The rest of the text after at least one blank. -/
def afterBlanks? (t : Text) : Option Text :=
  if Text.startsBlank t then some (Text.trimLeft t) else none

/-- The program that a line without blanks around it asks for. -/
def program? (line : Text) : Option Text := do
  let t ← Text.after? ['%'] line
  let t ← afterWord? "!TEX".toList (Text.trimLeft t)
  let t ← afterBlanks? t
  let t := (afterWord? "TS-".toList t).getD t
  let t ← afterWord? "program".toList t
  let t ← Text.after? ['='] (Text.trimLeft t)
  let name := (Text.trimLeft t).takeWhile Text.isWord
  if name.isEmpty then none else some name

/-- Whether a line may stand in the header: it is blank or a comment. -/
def isHeaderLine (line : Text) : Bool :=
  match Text.trim line with
  | [] => true
  | c :: _ => c = '%'

/-- The lines that a document begins with, up to the first that is neither blank nor a comment. -/
def header (t : Text) : List Text := (Text.splitLines t).takeWhile isHeaderLine

/-- The engine that a line asks for. Programs that are no engine do not count. -/
def lineEngine? (line : Text) : Option Engine :=
  (program? (Text.trim line)).bind fun name => Engine.ofName? (Text.lower name)

/-- The engine that a document asks for: that of the first line of the header that asks for one. -/
def engine? (t : Text) : Option Engine := (header t).findSome? lineEngine?

theorem engine?_header {t u : Text} (h : header t = header u) : engine? t = engine? u := by
  simp [engine?, h]

end Typeset.MagicComment
