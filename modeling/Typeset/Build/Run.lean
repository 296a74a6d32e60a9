import Typeset.Build.Session
import Typeset.Latexmk.Command

/-!
# Building documents

Several documents are built at the same time. A document that is named twice is built once, and one
that is being built already is left alone. When the tool of a document has ended, its log is read
and the registry is told how the build went. If the user interrupts, the builds that have no outcome
yet are given up.

## Main definitions

* `Build.begin`: the start of one document
* `Build.readLog`, `Build.complete`: the outcome of a tool that has ended
* `Build.attend`, `Build.await`: the outcomes of all tools that were started
* `Build.giveUp`: the end of a build without an outcome
* `Build.buildAll`: the outcomes of several documents
-/

namespace Typeset.Build

/-- The name of a document. -/
def nameOf (document : Path) : String := Text.str document.name

/-- Records the outcome of a document. -/
def settle (document : Path) (o : Outcome) : Run Unit :=
  modify fun s => { s with outcomes := s.outcomes ++ [(document, o)] }

/-- Leaves a document alone that is being built already. -/
def skip (document : Path) : Run Unit := do
  let name := nameOf document
  remark (.alarm .warning ("Build already in progress for " ++ name ++ ".") [])
  tell (.skipped name "already building")
  let pdf ← require (Latexmk.pdfPath? document)
  settle document { file := document, status := .building, pdf := some pdf }

/-- The short reason why a tool was not started. -/
def Refusal.summary (r : Refusal) : String :=
  if r.error = .missing then "latexmk not found" else r.failure.text

/-- Reports a tool that could not be started. -/
def refuse (w : World) (document : Path) (r : Refusal) : Run Unit := do
  let file := document.str
  let detail := "Make sure latexmk is installed and in your PATH. (" ++ r.failure.text ++ ")"
  operate w (.fail file r.summary detail)
  operate w (.publish file [])
  remark (.alarm .error ("Failed to run latexmk: " ++ r.summary) [r.failure])
  tell (.failed (nameOf document) r.summary)
  let pdf ← require (Latexmk.pdfPath? document)
  settle document
    { file := document, status := .error, output := detail, pdf := some pdf,
      error := some r.summary }

/-- The words of the call that builds a document. -/
def commandFor (w : World) (o : BuildOptions) (document : Path) : Run (List String) :=
  match Latexmk.detect w.before document with
  | .ok detected => pure (Latexmk.command (Latexmk.chooseEngine detected o) o document)
  | .error _ => throw .unnameable

/-- Starts the tool of a document. -/
def launch (w : World) (o : BuildOptions) (document : Path) : Run Unit := do
  let command ← commandFor w o document
  operate w (.start document.str)
  tell (.started (nameOf document) command)
  match w.refusal document with
  | some r => refuse w document r
  | none => modify fun s => { s with jobs := s.jobs ++ [{ document := document }] }

/-- Whether a session has dealt with a document already. -/
def Session.knows (s : Session) (document : Path) : Bool :=
  (s.outcomes.any (·.1 = document)) || s.jobs.any (·.document = document)

/-- Starts a document, unless it was named before or is being built already. -/
def begin (w : World) (o : BuildOptions) (document : Path) : Run Unit := do
  let s ← get
  if s.knows document then pure ()
  else if s.registry.registry.isBuilding document.str then skip document
  else launch w o document

/-- What is known of a build whose log could be read or could not. -/
structure Verdict where
  outcome : Outcome
  /-- What the registry keeps of a failure. -/
  detail : String := ""
  /-- What is remarked about the log. -/
  alarms : List Remark := []

/-- The verdict on a tool that ended by itself with an exit code that is not negative. -/
def judge (base : Outcome) (logPath : Path) (exit : Int) (errors : String)
    (log : Except FileError Log.Report) : Verdict :=
  let ds := (log.toOption.map Log.Report.diagnostics).getD []
  let base := { base with announced := log.toOption.bind Log.Report.output }
  let unreadable := "Unable to read " ++ Text.str logPath.name
  if exit = 0 then
    match log with
    | .ok _ => { outcome := { base with status := .success, diagnostics := ds } }
    | .error e =>
      let f := Failure.ofFile e logPath.str
      { outcome := { base with error := some unreadable }
        detail := f.text
        alarms := [.alarm .error unreadable [f]] }
  else
    { outcome :=
        { base with
          error := some ("Exit code " ++ toString exit)
          diagnostics := shownDiagnostics base.file exit ds }
      detail := if errors.isEmpty then base.output else errors
      alarms :=
        match log with
        | .ok _ => []
        | .error e => [.alarm .warning unreadable [.ofFile e logPath.str]] }

/-- Makes remarks in order. -/
def remarkAll : List Remark → Run Unit
  | [] => pure ()
  | r :: rs => do
    remark r
    remarkAll rs

/-- Tells the registry and the caller about a verdict. An alarm about a log comes before the
registry is told that a tool failed, and after that if the tool claims to have succeeded. -/
def announce (w : World) (v : Verdict) : Run Unit := do
  let o := v.outcome
  let file := o.file.str
  let name := nameOf o.file
  match o.error with
  | none =>
    operate w (.finish file o.output (some o.elapsed))
    tell (.finished name (some o.elapsed))
  | some error =>
    if o.exit = some 0 then
      operate w (.fail file error v.detail)
      remarkAll v.alarms
    else
      remarkAll v.alarms
      operate w (.fail file error v.detail)
    tell (.failed name error)
  operate w (.publish file o.diagnostics)

/-- What the session's interpreter makes of a document's log. A log that cannot be read does not get
to it. -/
def readLog (w : World) (document logPath : Path) : Run (Except FileError Log.Report) :=
  match w.after.readText logPath with
  | .error e => pure (.error e)
  | .ok log => do
    let interpreter := (← get).interpreter.read document log
    modify fun s => { s with interpreter := interpreter }
    return .ok interpreter.report

/-- Finds the outcome of a tool that has ended. -/
def complete (w : World) (job : Job) : Run Unit := do
  let document := job.document
  let exit := w.exit document
  let pdf ← require (Latexmk.pdfPath? document)
  let base : Outcome :=
    { file := document, status := .error, exit := some exit, output := Text.str job.output,
      elapsed := .real (w.elapsed document), pdf := some pdf }
  if exit < 0 then
    operate w (.reset (some document.str))
    tell (.interrupted (nameOf document))
    settle document { base with status := .idle, interrupted := true }
  else
    let logPath ← require (Latexmk.logPath? document)
    let log ← readLog w document logPath
    let v := judge base logPath exit (Text.str job.errors) log
    announce w v
    settle document v.outcome

/-- Gives up the build of a document. -/
def giveUp (w : World) (document : Path) : Run Unit := do
  operate w (.reset (some document.str))
  tell (.interrupted (nameOf document))

/-- Carries out a step for each item in order. -/
def forAll (step : α → Run Unit) : List α → Run Unit
  | [] => pure ()
  | a :: as => do
    step a
    forAll step as

/-- Completes tools as they end, one after another, while there is a pipe to be watched. The user
may interrupt as the session waits for one. -/
def attend (w : World) (selector : Selector) : List Reading → Run Unit
  | [] => if selector.pipes.isEmpty then pure () else throw w.silence
  | r :: rs => do
    let (selector, ended) := selector.hear r
    match ended with
    | some job => complete w job
    | none => pure ()
    attend w selector rs

/-- Waits for the tools that were started. -/
def await (w : World) : Run Unit := do
  attend w (.watch (← get).jobs) w.readings

/-- Builds documents, given by their absolute paths. -/
def buildEach (w : World) (o : BuildOptions) (documents : List Path) : Run Unit := do
  forAll (begin w o) documents
  await w

/-- Builds documents; if the user interrupts, gives up those whose tools were started and that have
no outcome. -/
def attempt (w : World) (o : BuildOptions) (documents : List Path) (s : Session) :
    Except Stop Unit × Session :=
  match (buildEach w o documents).run s with
  | (.error .interrupted, s) =>
    let (_, s) := (forAll (giveUp w) s.unsettled).run s
    (.error .interrupted, s)
  | r => r

/-- The outcomes of several documents, in the order in which they were named, and the session
afterwards. -/
def buildAll (w : World) (o : BuildOptions) (documents : List Path) (s : Session) :
    Except Stop (List Outcome) × Session :=
  let documents := documents.map (Path.resolve ⟨.root, w.before.cwd⟩)
  let (r, s) := attempt w o documents s
  (r.map fun _ => documents.filterMap fun d => s.outcomes.lookup d, s)

end Typeset.Build
