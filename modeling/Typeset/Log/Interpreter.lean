import Typeset.Log.Scan
import Typeset.Text.Lines

/-!
# Reading a log

The diagnostics of a log, in log order, without those that repeat the diagnostic right before
them. The first line of a log is a banner and is never read.

## Main definitions

* `Log.lineSegments`, `Log.logSegments`: the segments of a log behind its banner
* `Log.found`: the diagnostics that segments yield
* `Log.Report`, `Log.Statistics`: what a log says, and the same in numbers
* `Log.readLines`, `Log.read`: the report of a log
* `Log.Interpreter`: a reader that keeps what it found in its latest log

## Main results

* `Log.Interpreter.read_report`: a report does not depend on the logs read before
-/

namespace Typeset.Log

open Text

/-- What a log says: its diagnostics, and the output file that it announces last. -/
structure Report where
  diagnostics : List Diagnostic := []
  output : Option Path := none
  deriving DecidableEq, Repr

/-- A report in numbers: how many diagnostics there are in all and of each severity, and the output
file. -/
structure Statistics where
  total : Nat
  errors : Nat
  warnings : Nat
  info : Nat
  output : Option Path
  deriving DecidableEq, Repr

/-- The diagnostics that the segments yield, repeats included. -/
def found (segments : List Segment) : List Diagnostic := segments.filterMap Segment.diagnostic?

namespace Report

/-- The report of a list of segments. -/
def ofSegments (segments : List Segment) : Report where
  diagnostics := dropRepeats repeatKey none (found segments)
  output := (segments.filterMap Segment.output?).getLast?

/-- The counts by severity. -/
def tally (r : Report) : Diagnostic.Tally := Diagnostic.tally r.diagnostics

/-- The report in numbers. -/
def statistics (r : Report) : Statistics where
  total := r.diagnostics.length
  errors := r.tally.errors
  warnings := r.tally.warnings
  info := r.tally.info
  output := r.output

end Report

/-- The segments of the lines of a log that belongs to the document `root`, without its banner. -/
def lineSegments (root : Path) (lines : List Text) : List Segment :=
  segments ⟨root, ⟨root, []⟩⟩ 1 lines.tail

/-- The segments of a log that belongs to the document `root`, without its banner. -/
def logSegments (root : Path) (log : Text) : List Segment := lineSegments root (logLines log)

/-- The report of the lines of a log of the document at the absolute path `root`. -/
def readLines (root : Path) (lines : List Text) : Report := .ofSegments (lineSegments root lines)

/-- The report of a log of the document at the absolute path `root`. -/
def read (root : Path) (log : Text) : Report := readLines root (logLines log)

/-- The path `p` from the directory `cwd`, absolute and normalized. -/
def absolute (cwd p : Path) : Path := cwd.resolve p

/-- A reader of logs, with what it has found in the log that it reads or read last: the diagnostics,
the one among them that it kept last, and the output file. -/
structure Interpreter where
  diagnostics : List Diagnostic := []
  last : Option Diagnostic := none
  output : Option Path := none
  deriving DecidableEq, Repr

namespace Interpreter

/-- Forgets the log before. -/
def clear (i : Interpreter) : Interpreter :=
  { i with diagnostics := [], last := none, output := none }

/-- Keeps a diagnostic, unless it repeats the one kept last. -/
def add (i : Interpreter) (d : Diagnostic) : Interpreter :=
  if i.last.map repeatKey = some (repeatKey d) then i
  else { i with diagnostics := i.diagnostics ++ [d], last := some d }

/-- Reads a log of the document at the absolute path `root`. -/
def read (i : Interpreter) (root : Path) (log : Text) : Interpreter :=
  let segments := logSegments root log
  let i := (found segments).foldl add i.clear
  { i with output := (segments.filterMap Segment.output?).getLast? }

/-- What the log says that was read last. -/
def report (i : Interpreter) : Report := ⟨i.diagnostics, i.output⟩

/-- The same in numbers. -/
def statistics (i : Interpreter) : Statistics := i.report.statistics

theorem diagnostics_foldl_add (ds : List Diagnostic) (i : Interpreter) :
    (ds.foldl add i).diagnostics =
      i.diagnostics ++ dropRepeats repeatKey (i.last.map repeatKey) ds := by
  induction ds generalizing i with
  | nil => exact (List.append_nil _).symm
  | cons d ds ih =>
    rw [List.foldl_cons, ih, dropRepeats, add]
    split
    · rfl
    · simp

/-- A log is read from a clean slate: what it says does not depend on the logs read before. -/
theorem read_report (i : Interpreter) (root : Path) (log : Text) :
    (i.read root log).report = Log.read root log :=
  congrArg (Report.mk · _) (diagnostics_foldl_add _ i.clear)

end Interpreter

end Typeset.Log
