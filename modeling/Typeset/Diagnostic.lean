import Typeset.Path

/-!
# Diagnostics

A diagnostic is one issue of a compilation: how severe it is, what it says, and the lines of the
source that it is about. Rows and columns count from zero.

## Main definitions

* `Severity`, `Point`, `Span`, `Location`, `Diagnostic`
* `Diagnostic.sort`: errors first, then warnings, then notes, each by source row
* `Diagnostic.Tally`: how many diagnostics there are of each severity

## Main results

* `Diagnostic.sort_perm`: sorting keeps the diagnostics
* `Diagnostic.tally_total`: the counts add up to the number of diagnostics
-/

namespace Typeset

/-- How severe an issue is. -/
inductive Severity where
  | error
  | warning
  | info
  deriving DecidableEq, Repr

namespace Severity

/-- The place of a severity in a report: errors come first. -/
def rank : Severity → Nat
  | error => 0
  | warning => 1
  | info => 2

/-- The word for a severity. -/
def label : Severity → String
  | error => "error"
  | warning => "warning"
  | info => "info"

end Severity

/-- A place in a text. -/
structure Point where
  row : Int
  column : Int := 0
  deriving DecidableEq, Repr

/-- The column that stands for the end of a line, whatever its length. -/
def restOfLine : Int := 9223372036854775807

/-- The part of a text between two points. -/
structure Span where
  start : Point
  stop : Point
  deriving DecidableEq, Repr

namespace Span

/-- Whole lines from row `first` to row `last`, or the line `first` alone where `last` is missing
or comes before it. -/
def lines (first : Int) (last : Option Int) : Span where
  start := ⟨first, 0⟩
  stop := ⟨max first (last.getD first), restOfLine⟩

theorem start_le_stop_lines (first : Int) (last : Option Int) :
    (lines first last).start.row ≤ (lines first last).stop.row := Int.le_max_left ..

end Span

/-- A part of a source file. -/
structure Location where
  file : Text
  path : Path
  span : Span
  deriving DecidableEq, Repr

/-- One issue of a compilation. -/
structure Diagnostic where
  severity : Severity
  excerpt : Text
  location : Location
  description : Option Text := none
  logRange : Option Span := none
  deriving DecidableEq, Repr

namespace Location

/-- The lines `span` of the file at `path`. -/
def ofPath (path : Path) (span : Span) : Location := ⟨path.name, path, span⟩

end Location

namespace Diagnostic

/-- The first source row that the diagnostic is about. -/
def startRow (d : Diagnostic) : Int := d.location.span.start.row

/-- Whether the diagnostic is an error. -/
def isError (d : Diagnostic) : Bool := d.severity = .error

/-- Whether any of the diagnostics is an error. -/
def hasErrors (ds : List Diagnostic) : Bool := ds.any isError

/-- The order of a report: by severity, then by row. -/
def before (a b : Diagnostic) : Bool :=
  a.severity.rank < b.severity.rank
    || (a.severity.rank == b.severity.rank && a.startRow ≤ b.startRow)

/-- The diagnostics in the order of a report; those of equal severity and row stay in the order
given. -/
def sort (ds : List Diagnostic) : List Diagnostic := ds.mergeSort before

theorem sort_perm (ds : List Diagnostic) : (sort ds).Perm ds := List.mergeSort_perm ds before

/-- How many diagnostics there are of each severity. -/
structure Tally where
  errors : Nat
  warnings : Nat
  info : Nat
  deriving DecidableEq, Repr

/-- The number of diagnostics of a severity. -/
def countOf (s : Severity) (ds : List Diagnostic) : Nat := ds.countP (·.severity = s)

/-- The count of each severity. -/
def tally (ds : List Diagnostic) : Tally where
  errors := countOf .error ds
  warnings := countOf .warning ds
  info := countOf .info ds

theorem tally_total (ds : List Diagnostic) :
    (tally ds).errors + (tally ds).warnings + (tally ds).info = ds.length := by
  induction ds with
  | nil => rfl
  | cons d ds ih =>
    simp only [tally, countOf, List.countP_cons, List.length_cons] at ih ⊢
    cases h : d.severity <;> simp <;> omega

end Diagnostic

end Typeset
