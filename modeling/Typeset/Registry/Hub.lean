import Typeset.Events.Channel
import Typeset.Registry.Basic

/-!
# Following the registry

The registry as a hub with one channel for each kind of notice. The hub reads the time from a
clock whenever a build begins or ends.

## Main definitions

* `Registry.Clock`: the times still to come
* `Registry.Operation`: the changes that a caller may ask for
* `Registry.machine`: the registry and its clock as a machine
-/

namespace Typeset.Registry

open Events (Machine Effect)

/-- The times that a clock has still to show, and the one that it showed last. -/
structure Clock where
  ahead : List Float
  shown : Float := 0
  deriving Repr

/-- The time shown when the clock is read, and the clock afterwards. At the end of its times a
clock stands still. -/
def Clock.read (c : Clock) : Float × Clock :=
  match c.ahead with
  | [] => (c.shown, c)
  | t :: ts => (t, ⟨ts, t⟩)

/-- The changes that a caller may ask for. -/
inductive Operation where
  | start (file : String)
  | finish (file output : String) (elapsed : Option Seconds)
  | fail (file error output : String)
  | reset (file : Option String)
  | publish (file : String) (diagnostics : List Diagnostic)
  /-- Forgets every document and every listener without a notice. -/
  | dispose
  deriving Repr

/-- A registry and the clock that it reads. -/
structure Timed where
  registry : Registry := {}
  clock : Clock
  deriving Repr

namespace Operation

/-- Whether the time is read for an operation. -/
def readsClock : Operation → Bool
  | start _ => true
  | finish _ _ _ => true
  | fail _ _ _ => true
  | _ => false

/-- The registry after an operation at the time `now`, and the notices of the change. -/
def apply (r : Registry) (now : Float) : Operation → Registry × List Notice
  | start file => r.start file now
  | finish file output given => r.finish file output given now
  | fail file error output => r.fail file error output now
  | reset file => r.reset file
  | publish file ds => r.publish file ds
  | dispose => ({}, [])

/-- The notices of an operation go out on their channels; only disposing clears them. -/
def effects (notices : List Notice) : Operation → List (Effect Topic Notice)
  | dispose => Topic.all.map .clear
  | _ => notices.map fun n => .emit n.topic n

end Operation

/-- The registry after an operation, and what it does then. -/
def Timed.perform (op : Operation) (t : Timed) : Timed × List (Effect Topic Notice) :=
  let (now, clock) := if op.readsClock then t.clock.read else (t.clock.shown, t.clock)
  let (registry, notices) := op.apply t.registry now
  (⟨registry, clock⟩, op.effects notices)

/-- The registry and its clock as a machine. -/
def machine : Machine Timed Operation Topic Notice := ⟨Timed.perform⟩

end Typeset.Registry
