import Typeset.Build.Outcome
import Typeset.Cleanup.Sweep
import Typeset.Console.Emoji
import Typeset.Console.Table
import Typeset.Data.Json
import Typeset.Latexmk.Command
import Typeset.Progress

/-!
# Reports

What a command shows in the end: the diagnostics of a document, how the builds went, why one of them
failed, and which files were swept up. On a terminal a report is drawn as a table, which shows the
pictures that its texts name; elsewhere it is written line by line.

## Main definitions

* `Console.Screen`, `Console.Shown`: where a report goes, and how it appears there
* `Console.diagnosticsReport`, `Console.summaryReport`, `Console.failureReport`,
  `Console.cleanupReport`: the reports
* `Console.Obstacle`: why there is no report
-/

namespace Typeset.Console

open Build (Outcome)

/-- A terminal. One that does not tell its size is taken to have eighty columns. -/
structure Screen where
  columns : Nat := 80
  deriving DecidableEq, Repr

/-- The two channels of output. -/
inductive Channel where
  | results
  | remarks
  deriving DecidableEq, Repr

/-- How a report appears: as lines drawn on the terminal of a channel, or as output. -/
inductive Shown where
  | drawn (channel : Channel) (lines : List Text)
  | written (output : Output)
  deriving DecidableEq, Repr

/-- A report as output. -/
def Shown.output : Shown → Output
  | .written o => o
  | .drawn channel lines =>
    let t := lines.flatMap (· ++ ['\n'])
    match channel with
    | .results => ⟨t, []⟩
    | .remarks => ⟨[], t⟩

/-- Why there is no report. -/
inductive Obstacle where
  /-- A path has no file name, so no finished document belongs to it. -/
  | nameless
  /-- Nothing can have a path. -/
  | unnameable
  /-- A time cannot be shown. -/
  | immense
  deriving DecidableEq, Repr

/-- Lines of results. -/
def echoAll (lines : List Text) : Output := Output.concat (lines.map Output.echo)

/-- A path as it is shown: seen from the directory `cwd` if it leads below it. -/
def shownPath (cwd p : Path) : Except Obstacle Text :=
  if p.isNameable then
    let p := cwd.canonical p
    .ok ((p.relativeTo? cwd).getD p).text
  else .error .unnameable

/-- The size of a file in words. -/
def sizeText (bytes : Nat) : String :=
  let kilo := 1024
  let mega := kilo * kilo
  if mega ≤ bytes then Decimal.ofUnits 2 (Decimal.roundDiv (100 * bytes) mega) ++ " MiB"
  else if kilo ≤ bytes then Decimal.ofUnits 1 (Decimal.roundDiv (10 * bytes) kilo) ++ " KiB"
  else toString bytes ++ " B"

/-! ## Diagnostics -/

/-- Where a diagnostic is, with lines counted from one. -/
def locationText (d : Diagnostic) : Text :=
  d.location.file ++ Text.ofString (":" ++ toString (d.startRow + 1))

/-- How many diagnostics there are of each severity, in words. -/
def tallyText (ds : List Diagnostic) : Text :=
  let t := Diagnostic.tally ds
  Text.ofString
    (toString t.errors ++ " error(s), " ++ toString t.warnings ++ " warning(s), "
      ++ toString t.info ++ " info")

/-- A diagnostic on a line. -/
def diagnosticLine (d : Diagnostic) : Text :=
  Text.ofString ("  " ++ d.severity.label ++ ": ") ++ locationText d ++ [':', ' '] ++ d.excerpt

/-- Diagnostics, already in order, as a table. -/
def diagnosticsTable (title : Text) (ds : List Diagnostic) : Table where
  title := if title.isEmpty then none else some (Emoji.substitute title)
  columns :=
    [{ heading := "Severity".toList }, { heading := "Location".toList, breakable := false },
      { heading := "Message".toList }]
  rows := ds.map fun d =>
    [d.severity.label.toList, Emoji.substitute (locationText d), Emoji.substitute d.excerpt]

/-- The report on the diagnostics of a document; an empty title is left out. -/
def diagnosticsReport (screen : Option Screen) (title : Text) (ds : List Diagnostic) : Shown :=
  let ds := Diagnostic.sort ds
  match screen with
  | some s => .drawn .results ((diagnosticsTable title ds).lines s.columns ++ [tallyText ds])
  | none =>
    .written
      (echoAll ((if title.isEmpty then [] else [title]) ++ ds.map diagnosticLine ++ [tallyText ds]))

/-! ## Builds -/

/-- A build in the summary. -/
structure SummaryRow where
  document : Text
  status : Text
  elapsed : Text
  detail : Text
  deriving DecidableEq, Repr

/-- The status of a build in the summary. -/
def statusText (o : Outcome) : String := if o.interrupted then "interrupted" else o.status.label

/-- What the summary says of a finished document. -/
def pdfText (files : Files) (pdf : Path) : Except Obstacle String :=
  if pdf.isNameable then .ok (((files.size? pdf).map sizeText).getD "") else .error .unnameable

/-- What the summary says of an outcome. -/
def summaryRow (files : Files) (o : Outcome) : Except Obstacle SummaryRow := do
  match o.pdf <|> Latexmk.pdfPath? o.file with
  | none => throw .nameless
  | some pdf =>
    let detail ← if o.succeeded then pdfText files pdf else pure (o.error.getD "")
    let document ← shownPath ⟨.root, files.cwd⟩ o.file
    if o.elapsed.isImmense then throw .immense
    return {
      document := document
      status := (statusText o).toList
      elapsed := (o.elapsed.shown ++ "s").toList
      detail := detail.toList }

/-- A build on a line of the summary. -/
def SummaryRow.line (r : SummaryRow) : Text :=
  let detail := if r.detail.isEmpty then [] else [' ', '('] ++ r.detail ++ [')']
  "  * ".toList ++ r.document ++ ": ".toList ++ r.status ++ " in ".toList ++ r.elapsed ++ detail

/-- The summary as a table. -/
def summaryTable (rs : List SummaryRow) : Table where
  columns :=
    [{ heading := "Document".toList }, { heading := "Status".toList },
      { heading := "Time".toList, alignment := .right }, { heading := "Details".toList }]
  rows := rs.map fun r =>
    [Emoji.substitute r.document, r.status, r.elapsed, Emoji.substitute r.detail]

/-- The summary of builds. -/
def summaryReport (screen : Option Screen) (files : Files) (os : List Outcome) :
    Except Obstacle Shown :=
  (os.mapM (summaryRow files)).map fun rs =>
    match screen with
    | some s => .drawn .results ((summaryTable rs).lines s.columns)
    | none => .written (echoAll (rs.map SummaryRow.line))

/-- The primary error of some diagnostics: of the errors in the first row, the one reported
first. -/
def primary? (ds : List Diagnostic) : Option Diagnostic :=
  (Diagnostic.sort (ds.filter Diagnostic.isError)).head?

/-- What was wrong with a build, under a label: its primary error, or else its own error. -/
def complaintRows (o : Outcome) : List (Text × Text) :=
  match primary? o.diagnostics, o.error.getD "" with
  | some d, _ => [("Primary error".toList, locationText d ++ [':', ' '] ++ d.excerpt)]
  | none, "" => []
  | none, e => [("Error".toList, e.toList)]

/-- What is shown of a failed build, under labels. -/
def failureRows (cwd : Path) (o : Outcome) (log : Path) : Except Obstacle (List (Text × Text)) :=
  (shownPath cwd log).map fun log =>
    complaintRows o
      ++ [("Log file".toList, log),
        ("Next steps".toList, "Inspect the log or re-run with -v for details".toList)]

/-- The report on a failed build. -/
def failureReport (screen : Option Screen) (cwd : Path) (o : Outcome) (log : Path) :
    Except Obstacle Shown :=
  (failureRows cwd o log).map fun rows =>
    let title := "LaTeX failure: ".toList ++ o.file.name
    match screen with
    | some s =>
      let table : Table :=
        { columns := [{}, {}], headed := false, rows := rows.map fun (label, t) => [label, t] }
      .drawn .remarks (panel s.columns (Emoji.substitute title) table)
    | none =>
      let line (r : Text × Text) : Text := [' ', ' '] ++ r.1 ++ [':', ' '] ++ r.2
      .written (Output.concat ((title :: rows.map line).map Output.complain))

/-! ## Sweeping up -/

/-- The files that were swept up, as a table. -/
def cleanupTable (tex : Path) (o : Cleanup.Outcome) : Table where
  title := some (Emoji.substitute ("Cleaned ".toList ++ tex.name))
  columns := [{ heading := "File".toList }, { heading := "Result".toList }]
  rows :=
    o.deleted.map (fun n => [Emoji.substitute n, "deleted".toList])
      ++ o.failed.map fun n => [Emoji.substitute n, "failed".toList]

/-- The files that were swept up, on lines. -/
def cleanupLines (tex : Path) (o : Cleanup.Outcome) : List Text :=
  let head := "Cleaned " ++ toString o.deleted.length ++ " file(s) for " ++ Text.str tex.name ++ "."
  [head.toList] ++ o.deleted.map (fun n => "  - ".toList ++ n)
    ++ o.failed.map fun n => "  ! ".toList ++ n ++ " (failed)".toList

/-- The report on what was swept up beside a document. -/
def cleanupReport (screen : Option Screen) (tex : Path) (o : Cleanup.Outcome) : Shown :=
  if o.deleted.isEmpty && o.failed.isEmpty then
    .written (.echo ("No auxiliary files found for ".toList ++ tex.name ++ ['.']))
  else
    match screen with
    | some s => .drawn .results ((cleanupTable tex o).lines s.columns)
    | none => .written (echoAll (cleanupLines tex o))

/-! ## Data -/

/-- A value for other programs, in the indented layout. -/
def dataReport (v : Data.Value) : Shown := .written (.echo (Data.Json.indented v).toList)

end Typeset.Console
