import Typeset.Diagnostic
import Typeset.Text.Blank

/-!
# The files that are open

While a document is compiled, the log shows the files that are opened and closed: `(` with a file
name, and `)`. The stack of open files has the document itself at its bottom, which is never
closed.

## Main definitions

* `Log.FileStack`: the document and the files open inside it
* `Log.FileToken`, `Log.fileTokens`: the marks on a line
* `Log.FileStack.track`: the stack after a line

## Main results

* `Log.FileStack.bottom_track`: the document stays at the bottom
* `Log.FileStack.depth_pos`: the stack is never empty
-/

namespace Typeset.Log

open Text

/-- The document and the files open inside it, innermost first. -/
structure FileStack where
  bottom : Path
  opened : List Path := []
  deriving DecidableEq, Repr

namespace FileStack

/-- The innermost open file. -/
def current (s : FileStack) : Path := s.opened.headD s.bottom

/-- The number of open files, the document included. -/
def depth (s : FileStack) : Nat := s.opened.length + 1

/-- The stack with one more file open. -/
def push (s : FileStack) (p : Path) : FileStack := { s with opened := p :: s.opened }

/-- The stack with its innermost file closed; the document stays open. -/
def pop (s : FileStack) : FileStack := { s with opened := s.opened.tail }

theorem depth_pos (s : FileStack) : 1 ≤ s.depth := Nat.le_add_left 1 _

@[simp] theorem pop_push (s : FileStack) (p : Path) : (s.push p).pop = s := rfl

end FileStack

/-! ## Marks on a line -/

/-- A mark on a log line: a file is opened, or the innermost one is closed. -/
inductive FileToken where
  | opening (name : Text)
  | closing
  deriving DecidableEq, Repr

/-- The mark for a bracket and the run of characters behind it, last one first; a bracket with
nothing behind it is no mark. -/
def pendingToken : Option Text → List FileToken
  | some (c :: name) => [.opening (c :: name).reverse]
  | _ => []

/-- The marks of a line that continues an opening bracket and the characters `pending` behind
it, last one first. -/
def fileTokensFrom : (pending : Option Text) → Text → List FileToken
  | pending, [] => pendingToken pending
  | pending, c :: t =>
    if c = '(' then pendingToken pending ++ fileTokensFrom (some []) t
    else if c = ')' then pendingToken pending ++ .closing :: fileTokensFrom none t
    else if c = '[' ∨ c = ']' then pendingToken pending ++ fileTokensFrom none t
    else fileTokensFrom (pending.map (c :: ·)) t

/-- The marks of a line, from left to right. The name of an opened file is the run behind the
bracket up to the next round or square bracket. -/
def fileTokens (line : Text) : List FileToken := fileTokensFrom none line

/-- Whether a character may surround a file name: a blank or a double quote. -/
def isPadding (c : Char) : Bool := isBlank c || c = '"'

/-- The name without padding at its ends. -/
def trimName (name : Text) : Text := dropEnd isPadding (name.dropWhile isPadding)

namespace FileStack

/-- The path of a file named in the log, seen from the directory of the document. -/
def resolve (s : FileStack) (name : Text) : Path := s.bottom.parent.resolve (.ofText name)

/-- The stack after a mark. Only names with a dot are files. -/
def apply (s : FileStack) : FileToken → FileStack
  | .opening name =>
    let name := trimName name
    if '.' ∈ name then s.push (s.resolve name) else s
  | .closing => s.pop

/-- The stack after the marks of a line. -/
def track (s : FileStack) (line : Text) : FileStack := (fileTokens line).foldl apply s

@[simp] theorem bottom_apply (s : FileStack) (k : FileToken) : (s.apply k).bottom = s.bottom := by
  cases k with
  | opening name => simp only [apply]; split <;> rfl
  | closing => rfl

@[simp] theorem bottom_track (s : FileStack) (line : Text) : (s.track line).bottom = s.bottom := by
  unfold track
  induction fileTokens line generalizing s with
  | nil => rfl
  | cons k ks ih => simp [ih]

end FileStack

end Typeset.Log
