import Typeset.Path

/-!
# Pipes

The tools of several documents run at the same time, and each writes to two pipes. The pipes are
watched together and read as they have something to tell: a piece of text, or that they have ended.
A pipe that has ended is watched no longer, and with the last of its pipes a tool has ended.

## Main definitions

* `Build.Job`: a running tool with what it has written so far
* `Build.Reading`: what a pipe tells
* `Build.Selector`: the tools and the pipes that are being watched
* `Build.Selector.hear`: what comes of a reading
-/

namespace Typeset.Build

/-- The two pipes of a tool. -/
inductive Channel where
  | output
  | errors
  deriving DecidableEq, Repr

/-- A pipe of a document's tool. -/
structure Pipe where
  document : Path
  channel : Channel
  deriving DecidableEq, Repr

/-- What a pipe of a document's tool tells: a piece of text, or that it has ended. -/
structure Reading where
  document : Path
  channel : Channel
  piece : Option Text
  deriving DecidableEq, Repr

/-- The pipe that tells it. -/
def Reading.pipe (r : Reading) : Pipe := ⟨r.document, r.channel⟩

/-- The tool of a document, with what it has written so far. -/
structure Job where
  document : Path
  output : Text := []
  errors : Text := []
  /-- How many of its pipes are being watched. -/
  openPipes : Nat := 0
  deriving DecidableEq, Repr

namespace Job

/-- The pipes of a tool. -/
def pipes (j : Job) : List Pipe := [⟨j.document, .output⟩, ⟨j.document, .errors⟩]

/-- The tool once it has written a piece to one of its pipes. -/
def write (j : Job) (t : Text) : Channel → Job
  | .output => { j with output := j.output ++ t }
  | .errors => { j with errors := j.errors ++ t }

/-- The tool once one of its pipes has ended. -/
def close (j : Job) : Job := { j with openPipes := j.openPipes - 1 }

end Job

/-- Some tools, and those of their pipes that are being watched. -/
structure Selector where
  jobs : List Job
  pipes : List Pipe
  deriving DecidableEq, Repr

namespace Selector

/-- Watches all pipes of some tools. -/
def watch (jobs : List Job) : Selector where
  jobs := jobs.map fun j => { j with openPipes := j.pipes.length }
  pipes := jobs.flatMap Job.pipes

/-- Changes the tool of a document. -/
def update (s : Selector) (document : Path) (f : Job → Job) : Selector :=
  { s with jobs := s.jobs.map fun j => if j.document = document then f j else j }

/-- The selector after a reading, and the tool that has ended with it. A pipe that is not watched
tells nothing. -/
def hear (s : Selector) (r : Reading) : Selector × Option Job :=
  if r.pipe ∈ s.pipes then
    match r.piece with
    | some t => (s.update r.document fun j => j.write t r.channel, none)
    | none =>
      let s := { s.update r.document Job.close with pipes := s.pipes.erase r.pipe }
      (s, s.jobs.find? fun j => j.document = r.document && j.openPipes = 0)
  else (s, none)

end Selector

end Typeset.Build
