import Typeset.Diagnostic
import Typeset.Data.Json

/-!
# Diagnostics as data

The record that stands for a diagnostic in machine-readable output.

## Main definitions

* `Span.record`, `Diagnostic.record`
-/

namespace Typeset

open Data (Value)

/-- A row and a column under their names. -/
def Point.record (p : Point) : Value := .record [("row", .int p.row), ("column", .int p.column)]

/-- A row and a column in a list. -/
def Point.pair (p : Point) : Value := .list [.int p.row, .int p.column]

/-- The two ends under their names. -/
def Span.record (s : Span) : Value := .record [("start", s.start.record), ("end", s.stop.record)]

/-- The two ends in a list. -/
def Span.pair (s : Span) : Value := .list [s.start.pair, s.stop.pair]

/-- The file, its path and the lines in it. -/
def Location.record (l : Location) : Value :=
  .record
    [("file", .text (Text.str l.file)), ("fullPath", .text l.path.str),
      ("position", l.span.record)]

namespace Diagnostic

/-- The entry for a description; an empty one is left out. -/
def descriptionEntry (d : Diagnostic) : List (String × Value) :=
  match d.description with
  | some t => if t.isEmpty then [] else [("description", .text (Text.str t))]
  | none => []

/-- The entry for the part of the log that the diagnostic was read from. -/
def logRangeEntry (d : Diagnostic) : List (String × Value) :=
  match d.logRange with
  | some s => [("logRange", s.pair)]
  | none => []

/-- The diagnostic as a record. -/
def record (d : Diagnostic) : Value :=
  .record
    ([("severity", .text d.severity.label), ("excerpt", .text (Text.str d.excerpt)),
        ("location", d.location.record)]
      ++ d.descriptionEntry ++ d.logRangeEntry)

end Diagnostic

end Typeset
