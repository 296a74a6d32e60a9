import Typeset.Cleanup.Wildcard
import Typeset.Failure

/-!
# Sweeping up

The removal of the files that a compilation left beside a document. A plain pattern is the end of a
file name and asks for the document's own file with that end. A pattern with wildcards or with the
name of the document in it is held against every file of the document's directory; it never takes
sources or finished documents away.

## Main definitions

* `Cleanup.Outcome`: the files that were removed, and those that could not be
* `Cleanup.Problem`: why nothing was done at all
* `Cleanup.sweep`: the removal of the files that a list of patterns asks for
-/

namespace Typeset.Cleanup

/-- The names of the files that were removed, and of those that could not be, in order. -/
structure Outcome where
  deleted : List Text := []
  failed : List Text := []
  deriving DecidableEq, Repr

/-- Why nothing was done at all. -/
inductive Problem where
  | noPatterns
  | unreadable (directory : Path) (error : FileError)
  /-- An error that nobody expects in this place. -/
  | unforeseen (error : FileError)
  deriving DecidableEq, Repr

namespace Problem

/-- Whether the problem is reported as one of sweeping up. -/
def isForeseen : Problem → Bool
  | unforeseen _ => false
  | _ => true

/-- The problem in words. -/
def message : Problem → String
  | noPatterns => "No auxiliary file extensions configured."
  | unreadable directory _ => "Failed to read directory " ++ directory.str
  | unforeseen e => e.reason

/-- The problem with what caused it. -/
def failures : Problem → List Failure
  | noPatterns => [⟨"ConfigurationError", .message noPatterns.message, none, none⟩]
  | unreadable directory e =>
    Failure.linked 0
      [⟨"CleanupError", .message (unreadable directory e).message, none, none⟩,
        .ofFile e directory.str]
  | unforeseen e => [⟨e.kind, .message e.reason, none, none⟩]

end Problem

/-- The ends of the names that no pattern with wildcards takes away. -/
def protectedEnds : List Text := [".tex".toList, ".pdf".toList]

/-- Whether a pattern is held against the files of the directory. -/
def isNamePattern (pattern : Text) : Bool :=
  '*' ∈ pattern || '?' ∈ pattern || Text.occursIn Wildcard.placeholder pattern

/-- A sweep under way: the files as they are now, and what became of those asked for. -/
structure Sweep where
  files : Files
  outcome : Outcome := {}
  /-- The error that ended the sweep before its time. -/
  stop : Option FileError := none

namespace Sweep

/-- Tries to remove a file. -/
def unlink (s : Sweep) (p : Path) : Sweep :=
  match s.files.unlink p with
  | .ok files =>
    { s with
      files := files
      outcome := { s.outcome with deleted := s.outcome.deleted ++ [p.name] } }
  | .error _ => { s with outcome := { s.outcome with failed := s.outcome.failed ++ [p.name] } }

/-- Removes a file of the directory if the pattern describes it. -/
def tryName (directory : Path) (base pattern : Text) (s : Sweep) (name : Text) : Sweep :=
  if s.outcome.deleted.contains name || protectedEnds.any (Text.endsWith · name) then s
  else if Wildcard.matchesName pattern base name then s.unlink (directory.child name)
  else s

/-- Removes the file of the document with an end, if there is one. -/
def tryEnd (directory : Path) (base pattern : Text) (s : Sweep) : Sweep :=
  let p := directory.join (.ofText (base ++ '.' :: pattern))
  if s.outcome.deleted.contains p.name then s
  else
    match s.files.probe p with
    | .ok true => s.unlink p
    | .ok false => s
    | .error e => { s with stop := some e }

/-- Removes what a pattern asks for; `names` are the files that the directory had at first. -/
def tryPattern (directory : Path) (base : Text) (names : List Text) (s : Sweep) (pattern : Text) :
    Sweep :=
  if s.stop.isSome then s
  else if isNamePattern pattern then names.foldl (tryName directory base pattern) s
  else s.tryEnd directory base pattern

end Sweep

/-- The names of the files in a directory, in order. -/
def fileNames (entries : List (Text × Node)) : List Text :=
  entries.filterMap fun (name, n) =>
    match n with
    | .file _ => some name
    | .directory => none

/-- Removes the files that the patterns ask for beside the document `tex`. -/
def sweep (files : Files) (tex : Path) (patterns : List Text) : Except Problem Sweep :=
  if patterns.isEmpty then .error .noPatterns
  else
    match files.list tex.parent with
    | .error e => .error (if e.isRefusal then .unreadable tex.parent e else .unforeseen e)
    | .ok entries =>
      let names := fileNames entries
      .ok (patterns.foldl (Sweep.tryPattern tex.parent tex.stem names) { files := files })

end Typeset.Cleanup
