import Typeset.Diagnostic.Record
import Typeset.Registry.Basic

/-!
# Outcomes

What came of building a document. A build that failed without saying why gets an error of its own,
about the document as a whole.

## Main definitions

* `Build.Outcome`: what came of a build
* `Build.criticalError`: the error of a failed build that left none
* `Build.shownDiagnostics`: the diagnostics of a failed build

## Main results

* `Build.hasErrors_shownDiagnostics`: a failed build always shows an error
-/

namespace Typeset.Build

/-- What came of building a document. -/
structure Outcome where
  file : Path
  status : BuildStatus
  /-- How the tool ended; negative if a signal ended it. -/
  exit : Option Int := none
  diagnostics : List Diagnostic := []
  output : String := ""
  elapsed : Seconds := .real 0
  pdf : Option Path := none
  /-- The finished document that the log announces. -/
  announced : Option Path := none
  interrupted : Bool := false
  error : Option String := none
  deriving Repr

/-- Whether the build went well. -/
def Outcome.succeeded (o : Outcome) : Bool := o.status = .success

/-- The error of a failed build that left none. -/
def criticalError (document : Path) (exit : Int) : Diagnostic where
  severity := .error
  excerpt :=
    Text.ofString ("Critical error: Compilation failed with exit code " ++ toString exit)
  location := .ofPath document (.lines 0 none)

/-- The diagnostics of a failed build, given those of its log. -/
def shownDiagnostics (document : Path) (exit : Int) (ds : List Diagnostic) : List Diagnostic :=
  if Diagnostic.hasErrors ds then ds else ds ++ [criticalError document exit]

theorem hasErrors_shownDiagnostics (document : Path) (exit : Int) (ds : List Diagnostic) :
    Diagnostic.hasErrors (shownDiagnostics document exit ds) := by
  unfold shownDiagnostics
  split
  · assumption
  · simp [Diagnostic.hasErrors, Diagnostic.isError, criticalError]

end Typeset.Build
