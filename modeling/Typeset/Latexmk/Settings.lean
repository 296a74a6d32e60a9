import Typeset.Failure

/-!
# The settings file of latexmk

The file in a user's home that latexmk reads first. On one family of systems its name may also be
written without the leading dot.

## Main definitions

* `Latexmk.Settings.path`: where the file is, or would be
* `Latexmk.Settings.create`: an empty file in its place
-/

namespace Typeset.Latexmk.Settings

/-- The names of the file, in the order in which they are looked for. -/
def names (dotless : Bool) : List Text :=
  ".latexmkrc".toList :: if dotless then ["latexmkrc".toList] else []

/-- Where the file is in a home; if there is none, the first place where it may be. -/
def path (files : Files) (dotless : Bool) (home : Path) : Except FileError Path := do
  let places := (names dotless).map home.child
  return (← places.findM? files.probe).getD (home.child ".latexmkrc".toList)

/-- Why the file was not created. -/
inductive Problem where
  | uncreatable (path : Path) (error : FileError)
  /-- An error that nobody expects in this place. -/
  | unforeseen (error : FileError)
  deriving DecidableEq, Repr

/-- Whether the problem is reported as one of the settings file. -/
def Problem.isForeseen : Problem → Bool
  | uncreatable .. => true
  | unforeseen _ => false

/-- The problem in words. -/
def Problem.message : Problem → String
  | uncreatable path e => "Unable to create " ++ path.str ++ ": " ++ e.reason
  | unforeseen e => e.reason

/-- The problem with what caused it. -/
def Problem.failures : Problem → List Failure
  | uncreatable path e =>
    Failure.linked 0
      [⟨"LatexmkrcError", .message (uncreatable path e).message, none, none⟩,
        .ofFile e path.str]
  | unforeseen e => [⟨e.kind, .message e.reason, none, none⟩]

/-- The files with an empty file at a path, or nothing if there is something already. -/
def create (files : Files) (p : Path) : Except Problem (Option Files) := do
  if ← (files.probe p).mapError .unforeseen then return none
  match files.create p with
  | .ok files => return some files
  | .error e => throw (if e.isRefusal then .uncreatable p e else .unforeseen e)

end Typeset.Latexmk.Settings
