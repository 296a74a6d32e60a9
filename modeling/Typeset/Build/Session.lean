import Typeset.Build.Outcome
import Typeset.Build.Pipes
import Typeset.Log.Interpreter
import Typeset.Registry.Hub
import Typeset.Remark

/-!
# Build sessions

A session builds documents, tells the registry about them and makes remarks to its caller. What
happens outside of it is given as a world: the files, which tools can be started, what they do, and
where the user interrupts the session.

The user can interrupt as a notice is delivered and while the session listens to the pipes of its
tools. What the session does in between takes no time here, so there is no interruption then.

## Main definitions

* `Build.World`: what happens outside of a session
* `Build.Session`: what a session has done so far
* `Build.Session.unsettled`: the documents that a session still works on
* `Build.Run`: a step of a session, which may be stopped
* `Build.operate`, `Build.remark`: the two ways to be heard
-/

namespace Typeset.Build

open Registry (Notice Operation Timed)

/-- A tool that could not be started, with what was not found or not allowed. -/
structure Refusal where
  error : FileError
  name : String
  deriving DecidableEq, Repr

/-- The failure that a refusal is. -/
def Refusal.failure (r : Refusal) : Failure := .ofFile r.error r.name

/-- What happens outside of a session.

An interruption while the session listens is one after the last reading, so a world whose `readings`
end earlier has it earlier. One that comes when the pipes of a tool have ended, but before the tool
is completed, leaves the same behind as one just before the last of its readings, since nothing of a
tool that is not completed is kept. -/
structure World where
  /-- The files that the tools find. -/
  before : Files
  /-- The files that the tools leave. -/
  after : Files
  /-- Whether the tool of a document can be started. -/
  refusal : Path → Option Refusal
  /-- How the tool of a document ends; negative if a signal ends it. -/
  exit : Path → Int
  /-- How long it takes. -/
  elapsed : Path → Float
  /-- What the pipes tell as long as the session listens to them, in order. -/
  readings : List Reading
  /-- Whether the user interrupts the session when a notice is delivered. -/
  interrupts : Notice → Bool := fun _ => false
  /-- Whether the user interrupts the session when it waits for pipes that tell nothing more. -/
  interruptsWait : Bool := false

/-- Why a session ends early. -/
inductive Stop where
  | interrupted
  /-- A path has no file name, so no finished document belongs to it. -/
  | nameless
  /-- Nothing can have a path. -/
  | unnameable
  /-- A tool that was started has not ended, and its pipes tell nothing more: the session waits, and
  the user does not interrupt. -/
  | waiting
  deriving DecidableEq, Repr

/-- What ends a session that waits for pipes that tell nothing more. -/
def World.silence (w : World) : Stop := if w.interruptsWait then .interrupted else .waiting

/-- What a session has done so far. -/
structure Session where
  registry : Timed
  /-- The notices that were delivered. -/
  notices : List Notice := []
  remarks : List Remark := []
  /-- The reader of all logs. -/
  interpreter : Log.Interpreter := {}
  /-- The tools that were started. -/
  jobs : List Job := []
  /-- The documents that are done with. -/
  outcomes : List (Path × Outcome) := []

/-- The documents whose tools were started and that have no outcome. -/
def Session.unsettled (s : Session) : List Path :=
  (s.jobs.map Job.document).filter fun d => !s.outcomes.any (·.1 = d)

/-- A step of a session. -/
abbrev Run := ExceptT Stop (StateM Session)

/-- Delivers notices until the user interrupts. -/
def deliver (w : World) : List Notice → Run Unit
  | [] => pure ()
  | n :: ns => do
    modify fun s => { s with notices := s.notices ++ [n] }
    if w.interrupts n then throw .interrupted
    deliver w ns

/-- The notices among the effects of an operation. -/
def noticesOf (es : List (Events.Effect Registry.Topic Notice)) : List Notice :=
  es.filterMap fun e =>
    match e with
    | .emit _ n => some n
    | .clear _ => none

/-- Operates the registry. -/
def operate (w : World) (op : Operation) : Run Unit := do
  let (registry, effects) := (← get).registry.perform op
  modify fun s => { s with registry := registry }
  deliver w (noticesOf effects)

/-- Makes a remark. -/
def remark (r : Remark) : Run Unit := modify fun s => { s with remarks := s.remarks ++ [r] }

/-- Tells about the progress of a build. -/
def tell (p : Progress) : Run Unit := remark (.progress p)

/-- The part of a path without which there is no outcome. -/
def require (x : Option α) : Run α :=
  match x with
  | some a => pure a
  | none => throw .nameless

end Typeset.Build
