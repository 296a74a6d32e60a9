import Typeset.Text.Basic

/-!
# Paths

POSIX paths as an anchor and a list of component names. Reading a path drops empty components and
single dots and keeps `..`; `Path.normalize` takes those away as well, without looking at any
file. A path that begins with exactly two slashes keeps both.

## Main definitions

* `Path.ofText`, `Path.text`: reading and writing
* `Path.join`, `Path.parent`, `Path.name`, `Path.stem`, `Path.suffix`, `Path.withSuffix?`
* `Path.normalize`: the path without `..` where that can be decided by the names alone
* `Path.resolve`, `Path.canonical`: a candidate path seen from a directory

## Main results

* `Path.normalize_of_forall_ne`: a path without `..` is normalized
-/

namespace Typeset

/-- Where a path starts: the current directory, `/`, or `//`. -/
inductive Anchor where
  | relative
  | root
  | doubleRoot
  deriving DecidableEq, Repr

/-- A path: its anchor and its component names, outermost first. -/
structure Path where
  anchor : Anchor
  parts : List Text
  deriving DecidableEq, Repr

namespace Anchor

/-- The anchor that is written with `n` slashes; three or more mean `/`. -/
def ofSlashes : Nat → Anchor
  | 0 => relative
  | 2 => doubleRoot
  | _ => root

/-- The slashes that the anchor is written with. -/
def text : Anchor → Text
  | relative => []
  | root => ['/']
  | doubleRoot => ['/', '/']

end Anchor

namespace Path

/-- The name of the current directory. -/
def dot : Text := ['.']

/-- The name of the parent directory. -/
def dotDot : Text := ['.', '.']

/-- The path that a text denotes. -/
def ofText (t : Text) : Path where
  anchor := .ofSlashes (t.takeWhile (· = '/')).length
  parts := (Text.splitOn '/' t).filter fun w => !w.isEmpty && w != dot

/-- The path that a string denotes. -/
def ofString (s : String) : Path := ofText s.toList

/-- The path as a text; a path without anchor and components is written `.`. -/
def text (p : Path) : Text :=
  if p.anchor = .relative ∧ p.parts = [] then dot else p.anchor.text ++ Text.joinWith ['/'] p.parts

/-- The path as a string. -/
def str (p : Path) : String := Text.str p.text

/-- Whether something can have the path: the character with the number zero ends a name, so that
none holds it. -/
def isNameable (p : Path) : Bool := p.parts.all fun n => !n.contains '\x00'

/-- Whether the path has an anchor. -/
def isAbsolute (p : Path) : Bool := p.anchor ≠ .relative

/-- The path `b` seen from `a`: `b` itself if it has an anchor. -/
def join (a b : Path) : Path :=
  if b.anchor = .relative then { a with parts := a.parts ++ b.parts } else b

/-- The path with one more component. -/
def child (p : Path) (name : Text) : Path := { p with parts := p.parts ++ [name] }

/-- The path without its last component, if there is one. -/
def parent (p : Path) : Path := { p with parts := p.parts.dropLast }

/-- The last component; empty if there is none. -/
def name (p : Path) : Text := p.parts.getLast?.getD []

/-- A file name cut before its last dot, which counts only if it has characters on both sides. -/
def cutName (name : Text) : Text × Text :=
  match Text.breakOnLast? '.' name with
  | some (l, r) => if l.isEmpty || r.isEmpty then (name, []) else (l, '.' :: r)
  | none => (name, [])

/-- The file name without its suffix. -/
def stem (p : Path) : Text := (cutName p.name).1

/-- The part of the file name from its last inner dot. -/
def suffix (p : Path) : Text := (cutName p.name).2

/-- The path with another suffix; a path without a file name has none. -/
def withSuffix? (p : Path) (suffix : Text) : Option Path :=
  if p.name.isEmpty then none else some (p.parent.child (p.stem ++ suffix))

/-- The components `names` after those of `seen`, innermost first, where `..` takes away the
component before it. At an anchor `..` leads nowhere; without one it stays. -/
def collapse (anchored : Bool) : (seen : List Text) → (names : List Text) → List Text
  | seen, [] => seen.reverse
  | seen, n :: names =>
    if n = dotDot then
      match seen with
      | [] => collapse anchored (if anchored then [] else [dotDot]) names
      | s :: rest => collapse anchored (if s = dotDot then dotDot :: s :: rest else rest) names
    else collapse anchored (n :: seen) names

/-- The path with each `..` carried out on the names. -/
def normalize (p : Path) : Path := { p with parts := collapse p.isAbsolute [] p.parts }

/-- The normalized path of `candidate` seen from `directory`. -/
def resolve (directory candidate : Path) : Path := (directory.join candidate).normalize

/-- The normalized path of `candidate` seen from an absolute directory, written with one slash. -/
def canonical (directory candidate : Path) : Path :=
  { directory.resolve candidate with anchor := .root }

/-- The path `p` without the leading components of `base`, if it has them. -/
def relativeTo? (p base : Path) : Option Path :=
  if p.anchor = base.anchor then
    (base.parts.isPrefixOf? p.parts).map fun rest => ⟨.relative, rest⟩
  else none

theorem collapse_of_forall_ne {anchored : Bool} {seen names : List Text}
    (h : ∀ n ∈ names, n ≠ dotDot) : collapse anchored seen names = seen.reverse ++ names := by
  induction names generalizing seen with
  | nil => simp [collapse]
  | cons n names ih =>
    have hn : n ≠ dotDot := h n (by simp)
    simp [collapse, hn, ih fun m hm => h m (by simp [hm])]

/-- A path without `..` is normalized. -/
theorem normalize_of_forall_ne {p : Path} (h : ∀ n ∈ p.parts, n ≠ dotDot) : p.normalize = p := by
  simp [normalize, collapse_of_forall_ne h]

end Path

end Typeset
