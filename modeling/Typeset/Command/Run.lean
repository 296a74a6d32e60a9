import Typeset.Build.Run
import Typeset.Command.Request
import Typeset.Config.Load
import Typeset.Console.Message
import Typeset.Console.Report
import Typeset.Latexmk.Settings
import Typeset.Log.File

/-!
# Carrying out requests

What comes of a command line: an exit code, output, and files. The code is 0 if all went well, 1 if
something failed, and 2 if the command line makes no sense.

A result is what comes of the command itself. Of a failure that nobody expects the command says
nothing. What the program around it makes of such a failure is no part of the result: it may show
the text of the failure, as an error, before it ends with code 1 too.

## Main definitions

* `Command.Surroundings`: what a command finds
* `Command.Result`: what comes of it
* `Command.carryOut`: the result of a request
* `Command.run`: the result of a command line
* `Command.Request.changesFiles`: whether a request may change files

## Main results

* `Command.files_run`: only builds, sweeps and a new settings file change files
-/

namespace Typeset.Command

open Build (Outcome)
open Console (Output Screen Shown)
open Data (Value)

/-- What a command finds. -/
structure Surroundings where
  files : Files
  environment : Environment := {}
  /-- Whether the name of a settings file may be written without its leading dot. -/
  dotless : Bool := false
  /-- The terminal on which results appear. -/
  results : Option Screen := none
  /-- The terminal on which remarks appear. -/
  remarks : Option Screen := none
  /-- What happens outside while documents are built. -/
  world : List Path → Build.World

/-- The working directory. -/
def Surroundings.directory (s : Surroundings) : Path := ⟨.root, s.files.cwd⟩

/-- What comes of a command. -/
structure Result where
  exit : Nat := 0
  output : Output := {}
  files : Files

/-- The version of the program. -/
def version : String := "0.1.0"

/-- The commands with their arguments. -/
def helpLines : List String :=
  ["Usage: latextools [-v] [--debug] [--version] COMMAND ...",
    "  build FILE... [-e ENGINE] [--synctex/--no-synctex] [--shell-escape] [--clean-aux]",
    "                [--json] [--config PATH]",
    "  parse LOG [--root TEX] [--json] [--no-info]",
    "  clean TEX [--config PATH]",
    "  latexmkrc [--create]"]

/-- The code for a command line that makes no sense. -/
def UsageError.exit : UsageError → Nat
  | unnameable _ => 1
  | _ => 2

/-- The result of a command line that makes no sense. -/
def misuse (s : Surroundings) (e : UsageError) : Result :=
  let output : Output :=
    match e with
    | .nothing => Console.echoAll (helpLines.map String.toList)
    | .unnameable _ => {}
    | e => .complain ("Error: " ++ e.message).toList
  { exit := e.exit, output := output, files := s.files }

/-- The result of a command that meets a failure that nobody expects: the command itself says
nothing. The failure is left to the program around it, which may show its text. -/
def breakOff (files : Files) : Result := { exit := 1, files := files }

/-- The result of a command that cannot do what it should. -/
def failure (s : Surroundings) (verbosity : Nat) (message : String) (fs : List Failure) : Result :=
  { exit := 1, output := Console.showAlarm verbosity .error message fs, files := s.files }

/-! ## The configuration -/

/-- Why there is no configuration, with the reason behind it unless that is said already. -/
def configMessage (p : Config.LoadProblem) : String :=
  match Failure.hint? p.failures with
  | none => p.message
  | some hint =>
    if Text.occursIn hint p.message.toList then p.message
    else p.message ++ " (" ++ Text.str hint ++ ")"

/-- Goes on with the configuration, if there is one. -/
def withConfig (s : Surroundings) (verbosity : Nat) (given : Option Path)
    (next : Config → Result) : Result :=
  match Config.load s.files s.environment given with
  | .ok c => next c
  | .error p =>
    if p.isForeseen then failure s verbosity (configMessage p) p.failures else breakOff s.files

/-! ## Building -/

/-- An outcome for other programs. -/
def outcomeRecord (o : Outcome) : Value :=
  .record
    [("file", .text o.file.str), ("status", .text o.status.label),
      ("returncode", (o.exit.map Value.int).getD .null), ("interrupted", .bool o.interrupted),
      ("error", .ofText? o.error), ("elapsed", o.elapsed.record),
      ("diagnostics", .list (o.diagnostics.map Diagnostic.record))]

/-- The reports on one outcome: its diagnostics, and why the build failed. -/
def outcomeReports (s : Surroundings) (o : Outcome) : List Shown :=
  let log := (Latexmk.logPath? o.file).getD o.file
  (if o.diagnostics.isEmpty then []
    else [Console.diagnosticsReport s.results o.file.name o.diagnostics])
    ++ if o.status = .error then
      (Console.failureReport s.remarks s.directory o log).toOption.toList
    else []

/-- The reports on builds. -/
def buildReports (s : Surroundings) (after : Files) (json : Bool) (os : List Outcome) :
    List Shown :=
  if json then [Console.dataReport (.list (os.map outcomeRecord))]
  else os.flatMap (outcomeReports s) ++ (Console.summaryReport s.results after os).toOption.toList

/-- Builds documents. -/
def build (s : Surroundings) (verbosity : Nat) (documents : List Path) (o : BuildOptions)
    (json : Bool) : Result :=
  let w := s.world documents
  let (r, session) := Build.buildAll w o documents { registry := ⟨{}, ⟨[0.0], 0⟩⟩ }
  let told := Output.concat (session.remarks.map (Console.showRemark verbosity json))
  match r with
  | .error _ => { exit := 1, output := told ++ .complain "Aborted.".toList, files := w.after }
  | .ok os =>
    { exit := if os.all Outcome.succeeded then 0 else 1
      output := told ++ Output.concat ((buildReports s w.after json os).map Shown.output)
      files := w.after }

/-! ## Reading a log -/

/-- What a log says for other programs. The counts are those of the whole log. -/
def logRecord (shown : List Diagnostic) (r : Log.Report) : Value :=
  .record
    [("diagnostics", .list (shown.map Diagnostic.record)),
      ("statistics",
        .record
          [("total", .int r.diagnostics.length), ("errors", .int r.tally.errors),
            ("warnings", .int r.tally.warnings), ("info", .int r.tally.info),
            ("outputPath", .ofText? (r.output.map Path.str))])]

/-- Reads a log. -/
def parse (s : Surroundings) (verbosity : Nat) (log : Path) (root : Option Path)
    (json noInfo : Bool) : Result :=
  match s.files.readText log with
  | .error e => failure s verbosity ("Unable to read " ++ log.str) [.ofFile e log.str]
  | .ok t =>
    let r := Log.read ((root <|> Log.documentOf? log).getD log) t
    let kept := r.diagnostics.filter fun d => !noInfo || d.severity ≠ .info
    let shown := Diagnostic.sort kept
    let report :=
      if json then Console.dataReport (logRecord shown r)
      else Console.diagnosticsReport s.results log.name shown
    { output := report.output, files := s.files }

/-! ## Sweeping up -/

/-- Sweeps up beside a document. -/
def clean (s : Surroundings) (verbosity : Nat) (document : Path) (o : CleanOptions) : Result :=
  match Cleanup.sweep s.files document (o.auxiliaries.map String.toList) with
  | .error p =>
    if p.isForeseen then failure s verbosity p.message p.failures else breakOff s.files
  | .ok swept =>
    let report := (Console.cleanupReport s.results document swept.outcome).output
    let failed := swept.outcome.failed.length
    if swept.stop.isSome then breakOff swept.files
    else if failed = 0 then { output := report, files := swept.files }
    else
      let message := "Failed to delete " ++ toString failed ++ " file(s)."
      { exit := 1
        output := report ++ Console.showAlarm verbosity .warning message []
        files := swept.files }

/-! ## The settings file -/

/-- Shows where the settings file is, or creates it. -/
def settings (s : Surroundings) (verbosity : Nat) (create : Bool) : Result :=
  match s.environment.home?.map (Latexmk.Settings.path s.files s.dotless) with
  | none => breakOff s.files
  | some (.error _) => breakOff s.files
  | some (.ok path) =>
    let shown : Result := { output := .echo path.text, files := s.files }
    if create then
      match Latexmk.Settings.create s.files path with
      | .error p =>
        if p.isForeseen then failure s verbosity p.message p.failures else breakOff s.files
      | .ok none => shown
      | .ok (some files) => { output := .echo ("Created ".toList ++ path.text), files := files }
    else shown

/-! ## Requests -/

/-- The result of a request. -/
def carryOut (s : Surroundings) (i : Invocation) : Result :=
  let v := i.verbosity
  match i.request with
  | .help => { output := Console.echoAll (helpLines.map String.toList), files := s.files }
  | .version => { output := .echo version.toList, files := s.files }
  | .build documents overrides json config =>
    withConfig s v config fun c =>
      match overrides.apply c.build with
      | .error is => misuse s (.overrides is)
      | .ok o => build s v documents o json
  | .parse log root json noInfo => parse s v log root json noInfo
  | .clean document config => withConfig s v config fun c => clean s v document c.clean
  | .settings create => settings s v create

/-- The result of a command line. -/
def run (s : Surroundings) (words : List Text) : Result :=
  match Invocation.ofWords s.files words with
  | .error e => misuse s e
  | .ok i => carryOut s i

/-! ## Files that stay -/

/-- Whether a request may change files. -/
def Request.changesFiles : Request → Bool
  | .build .. | .clean .. => true
  | .settings create => create
  | .help | .version | .parse .. => false

theorem files_parse (s : Surroundings) (verbosity : Nat) (log : Path) (root : Option Path)
    (json noInfo : Bool) : (parse s verbosity log root json noInfo).files = s.files := by
  unfold parse
  split <;> rfl

theorem files_settings (s : Surroundings) (verbosity : Nat) :
    (settings s verbosity false).files = s.files := by
  unfold settings
  split <;> rfl

theorem files_carryOut (s : Surroundings) {i : Invocation} (h : i.request.changesFiles = false) :
    (carryOut s i).files = s.files := by
  unfold carryOut
  split
  · rfl
  · rfl
  · next hrequest => simp [hrequest, Request.changesFiles] at h
  · exact files_parse ..
  · next hrequest => simp [hrequest, Request.changesFiles] at h
  · next create hrequest =>
    obtain rfl : create = false := by simpa [hrequest, Request.changesFiles] using h
    exact files_settings ..

/-- A command line that makes no sense leaves the files as they are, and so does one that neither
builds nor sweeps up nor creates the settings file. -/
theorem files_run {s : Surroundings} {words : List Text}
    (h : ∀ i, Invocation.ofWords s.files words = .ok i → i.request.changesFiles = false) :
    (run s words).files = s.files := by
  unfold run
  cases hwords : Invocation.ofWords s.files words with
  | error e => rfl
  | ok i => exact files_carryOut s (h i hwords)

end Typeset.Command
