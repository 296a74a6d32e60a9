import Typeset.Events.Subscription

/-!
# Hubs

A hub is a machine whose operations change its state and then emit payloads on channels. A listener
reports what it hears and may act while it is called: it may operate the same hub, subscribe,
dispose handles, or fail. Each of its actions runs only a given number of times, so every emission
comes to an end. A failing listener is recorded and the others are called all the same.

Actions may be put off to later calls, so that a plan can give what a listener does at each of any
number of calls.

## Main definitions

* `Events.Machine`: the operations of a hub
* `Events.Action`: what a listener, or the owner of the hub, may do
* `Events.Incident`: what may happen on a hub
* `Events.Hub`: the state of a hub with its listeners and the record of what happened
* `Events.Hub.run`: the hub after an action
-/

namespace Typeset.Events

/-- What an operation does after changing the state. -/
inductive Effect (τ π : Type) where
  /-- It delivers a payload to the listeners that a channel has at that moment. -/
  | emit (channel : τ) (payload : π)
  /-- It takes all listeners out of a channel. -/
  | clear (channel : τ)
  deriving Repr

/-- The operations `ο` on states `σ`. -/
structure Machine (σ ο τ π : Type) where
  perform : ο → σ → σ × List (Effect τ π)

/-- A failure inside a listener. -/
structure Fault where
  kind : String
  message : String
  deriving DecidableEq, Repr

namespace Fault

/-- The kind and the message. -/
def text (f : Fault) : String := f.kind ++ ": " ++ f.message

/-- The failure of naming a handle or a listener that there is not. -/
def unknownName (name : String) : Fault := ⟨"KeyError", "'" ++ name ++ "'"⟩

end Fault

/-- An action on a hub. Handles and listeners have names. -/
inductive Action (ο τ π ρ : Type) where
  /-- An operation of the machine. -/
  | operate (op : ο)
  /-- A new listener under a name, with the reports that it makes of a payload and the actions that
  it takes afterwards, each with the number of times that it may run. -/
  | listen (name : String) (channel : τ) (report : π → List ρ) (plan : List (Nat × Action ο τ π ρ))
  /-- A listener that there is already, subscribed once more. -/
  | listenAgain (name : String) (channel : τ) (listener : String)
  /-- A handle that holds nothing. -/
  | bare (name : String)
  /-- A group of handles. -/
  | group (name : String) (members : List String)
  /-- More members for a group. -/
  | extend (name : String) (members : List String)
  | dispose (name : String)
  /-- Actions after which a handle is disposed, also if one of them fails. -/
  | scoped (name : String) (actions : List (Action ο τ π ρ))
  /-- Actions in order. -/
  | all (actions : List (Action ο τ π ρ))
  /-- Reports without a payload. -/
  | tell (reports : List ρ)
  | fail (fault : Fault)
  /-- An action that is passed over until its turn has come the given number of times. -/
  | later (turns : Nat) (action : Action ο τ π ρ)

namespace Action

variable {ο τ π ρ : Type}

mutual

/-- The number of actions that an action may lead to, itself included. -/
def weight : Action ο τ π ρ → Nat
  | .listen _ _ _ plan => planWeight plan + 1
  | .scoped _ actions => listWeight actions + 1
  | .all actions => listWeight actions + 1
  | .later turns a => turns + weight a + 1
  | _ => 1

/-- The number of actions that a plan may lead to. -/
def planWeight : List (Nat × Action ο τ π ρ) → Nat
  | [] => 0
  | (times, a) :: plan => times * weight a + planWeight plan

/-- The number of actions that a list of actions may lead to. -/
def listWeight : List (Action ο τ π ρ) → Nat
  | [] => 0
  | a :: actions => weight a + listWeight actions

end

end Action

/-- What happened on a hub. Emissions have numbers. -/
inductive Incident (τ π ρ : Type) where
  /-- A report was made. -/
  | report (r : ρ)
  /-- The failure of a listener of a channel was put on record. -/
  | fault (channel : τ) (fault : Fault)
  /-- An emission began, for the listeners that its channel had at that moment. -/
  | begun (emission : Nat) (channel : τ) (payload : π) (audience : List ListenerId)
  /-- An emission called a listener. -/
  | called (emission : Nat) (id : ListenerId) (payload : π)
  /-- A listener that an emission had called returned, or failed. -/
  | left (emission : Nat) (id : ListenerId) (fault : Option Fault)
  /-- An emission ended. -/
  | ended (emission : Nat)
  deriving Repr

/-- A listener: its reports, and its actions with the number of times that each may still run. -/
structure Listener (ο τ π ρ : Type) where
  report : π → List ρ
  plan : List (Nat × Action ο τ π ρ)

/-- The state of a hub. -/
structure Hub (σ ο τ π ρ : Type) where
  state : σ
  board : Board τ := {}
  listeners : List (Listener ο τ π ρ) := []
  /-- The listeners by name, the latest first. -/
  listenerNames : List (String × ListenerId) := []
  /-- The handles by name, the latest first. -/
  handleNames : List (String × Handle) := []
  /-- The number of emissions so far. -/
  emissions : Nat := 0
  /-- What happened, the latest first. -/
  incidents : List (Incident τ π ρ) := []

namespace Hub

variable {σ ο τ π ρ : Type} [DecidableEq τ]

/-- The hub with one more incident. -/
def record (hub : Hub σ ο τ π ρ) (i : Incident τ π ρ) : Hub σ ο τ π ρ :=
  { hub with incidents := i :: hub.incidents }

/-- The hub with more reports. -/
def recordAll (hub : Hub σ ο τ π ρ) (rs : List ρ) : Hub σ ο τ π ρ :=
  rs.foldl (fun hub r => hub.record (.report r)) hub

/-- The listener with a number. A number that was not given out stands for a listener that does
nothing. -/
def listener (hub : Hub σ ο τ π ρ) (id : ListenerId) : Listener ο τ π ρ :=
  (hub.listeners[id]?).getD { report := fun _ => [], plan := [] }

/-- The handle with a name. -/
def handle? (hub : Hub σ ο τ π ρ) (name : String) : Option Handle := hub.handleNames.lookup name

/-- The hub with a name for a handle. -/
def nameHandle (hub : Hub σ ο τ π ρ) (name : String) (made : Board τ × Handle) : Hub σ ο τ π ρ :=
  { hub with board := made.1, handleNames := (name, made.2) :: hub.handleNames }

/-- The hub with a listener on a channel, both the listener and its handle under a name. -/
def subscribe (hub : Hub σ ο τ π ρ) (name : String) (channel : τ) (id : ListenerId) :
    Hub σ ο τ π ρ :=
  let hub := { hub with listenerNames := (name, id) :: hub.listenerNames }
  hub.nameHandle name (hub.board.subscribe channel id)

/-- The `i`-th action of a listener, if it may still run, and the hub where it may run once
less. In place of an action that is put off there is nothing to do. -/
def takeAction (hub : Hub σ ο τ π ρ) (id : ListenerId) (i : Nat) :
    Option (Action ο τ π ρ × Hub σ ο τ π ρ) :=
  match hub.listeners[id]? with
  | none => none
  | some l =>
    match l.plan[i]? with
    | some (times + 1, .later (turns + 1) a) =>
      let l := { l with plan := l.plan.set i (times + 1, .later turns a) }
      some (.tell [], { hub with listeners := hub.listeners.set id l })
    | some (times + 1, a) =>
      let l := { l with plan := l.plan.set i (times, a) }
      some (a, { hub with listeners := hub.listeners.set id l })
    | _ => none

/-- The hub after actions in order, up to the first one that fails. -/
def runAll (act : Action ο τ π ρ → Hub σ ο τ π ρ → Hub σ ο τ π ρ × Option Fault) :
    List (Action ο τ π ρ) → Hub σ ο τ π ρ → Hub σ ο τ π ρ × Option Fault
  | [], hub => (hub, none)
  | a :: actions, hub =>
    match act a hub with
    | (hub, some fault) => (hub, some fault)
    | (hub, none) => runAll act actions hub

/-- The hub after the actions of a listener whose places are given, up to the first one that
fails. -/
def runPlan (act : Action ο τ π ρ → Hub σ ο τ π ρ → Hub σ ο τ π ρ × Option Fault)
    (id : ListenerId) : List Nat → Hub σ ο τ π ρ → Hub σ ο τ π ρ × Option Fault
  | [], hub => (hub, none)
  | i :: places, hub =>
    match hub.takeAction id i with
    | none => runPlan act id places hub
    | some (a, hub) =>
      match act a hub with
      | (hub, some fault) => (hub, some fault)
      | (hub, none) => runPlan act id places hub

/-- The hub where a listener has been called and has made its reports. -/
def heard (emission : Nat) (payload : π) (hub : Hub σ ο τ π ρ) (id : ListenerId) : Hub σ ο τ π ρ :=
  (hub.record (.called emission id payload)).recordAll ((hub.listener id).report payload)

/-- The hub after an emission called a listener with its payload. -/
def call (act : Action ο τ π ρ → Hub σ ο τ π ρ → Hub σ ο τ π ρ × Option Fault) (emission : Nat)
    (channel : τ) (payload : π) (hub : Hub σ ο τ π ρ) (id : ListenerId) : Hub σ ο τ π ρ :=
  let places := List.range (hub.listener id).plan.length
  match runPlan act id places (hub.heard emission payload id) with
  | (hub, some fault) =>
    (hub.record (.left emission id (some fault))).record (.fault channel fault)
  | (hub, none) => hub.record (.left emission id none)

/-- The hub where an emission has begun; it takes the next number. -/
def begun (channel : τ) (payload : π) (hub : Hub σ ο τ π ρ) : Hub σ ο τ π ρ :=
  { hub with emissions := hub.emissions + 1 }.record
    (.begun hub.emissions channel payload (hub.board.listeners channel))

/-- The hub after a payload was delivered: every listener that the channel had at the beginning is
called once for each time that it was subscribed. -/
def emit (act : Action ο τ π ρ → Hub σ ο τ π ρ → Hub σ ο τ π ρ × Option Fault) (channel : τ)
    (payload : π) (hub : Hub σ ο τ π ρ) : Hub σ ο τ π ρ :=
  let emission := hub.emissions
  let audience := hub.board.listeners channel
  (audience.foldl (call act emission channel payload) (hub.begun channel payload)).record
    (.ended emission)

/-- The hub after an effect. -/
def apply (act : Action ο τ π ρ → Hub σ ο τ π ρ → Hub σ ο τ π ρ × Option Fault)
    (hub : Hub σ ο τ π ρ) : Effect τ π → Hub σ ο τ π ρ
  | .emit channel payload => hub.emit act channel payload
  | .clear channel => { hub with board := hub.board.clear channel }

/-- The hub after an action, and the failure of the action if it failed; the actions inside it run
by `act`. The state changes before anybody is told, and a handle is disposed at the end of its scope
even if one of the actions there failed. -/
def step (m : Machine σ ο τ π) (act : Action ο τ π ρ → Hub σ ο τ π ρ → Hub σ ο τ π ρ × Option Fault)
    (a : Action ο τ π ρ) (hub : Hub σ ο τ π ρ) : Hub σ ο τ π ρ × Option Fault :=
  match a with
  | .operate op =>
    let (state, effects) := m.perform op hub.state
    (effects.foldl (apply act) { hub with state := state }, none)
  | .listen name channel report plan =>
    let id := hub.listeners.length
    let l : Listener ο τ π ρ := { report := report, plan := plan }
    let hub := { hub with listeners := hub.listeners ++ [l] }
    (hub.subscribe name channel id, none)
  | .listenAgain name channel listener =>
    match hub.listenerNames.lookup listener with
    | some id => (hub.subscribe name channel id, none)
    | none => (hub, some (.unknownName listener))
  | .bare name => (hub.nameHandle name (hub.board.add none), none)
  | .group name members =>
    match members.mapM hub.handle? with
    | some hs => (hub.nameHandle name (hub.board.group hs), none)
    | none => (hub, (members.find? fun n => (hub.handle? n).isNone).map .unknownName)
  | .extend name members =>
    match hub.handle? name, members.mapM hub.handle? with
    | some h, some hs => ({ hub with board := hub.board.extend h hs }, none)
    | _, _ => (hub, ((name :: members).find? fun n => (hub.handle? n).isNone).map .unknownName)
  | .dispose name =>
    match hub.handle? name with
    | some h => ({ hub with board := hub.board.dispose h }, none)
    | none => (hub, some (.unknownName name))
  | .scoped name actions =>
    match hub.handle? name with
    | some h =>
      let (hub, fault) := runAll act actions hub
      ({ hub with board := hub.board.dispose h }, fault)
    | none => (hub, some (.unknownName name))
  | .all actions => runAll act actions hub
  | .tell reports => (hub.recordAll reports, none)
  | .fail fault => (hub, some fault)
  | .later turns a => if turns = 0 then act a hub else (hub, none)

/-- The hub after an action, and the failure of the action if it failed. At most `fuel` actions run
inside one another. -/
def runWithin (m : Machine σ ο τ π) :
    (fuel : Nat) → Action ο τ π ρ → Hub σ ο τ π ρ → Hub σ ο τ π ρ × Option Fault
  | 0, _, hub => (hub, none)
  | fuel + 1, a, hub => step m (runWithin m fuel) a hub

/-- The number of actions that the listeners may still run. -/
def weight (hub : Hub σ ο τ π ρ) : Nat :=
  hub.listeners.foldr (fun l n => Action.planWeight l.plan + n) 0

/-- The hub after an action, and the failure of the action if it failed. Every action that runs
inside another uses up one of those that the listeners may still run. -/
def run (m : Machine σ ο τ π) (a : Action ο τ π ρ) (hub : Hub σ ο τ π ρ) :
    Hub σ ο τ π ρ × Option Fault :=
  runWithin m (a.weight + hub.weight) a hub

/-- The names of the handles, each once, with whether its handle is disposed. -/
def disposed (hub : Hub σ ο τ π ρ) : List (String × Bool) :=
  (hub.handleNames.map Prod.fst).eraseDups.filterMap fun name =>
    (hub.handle? name).map fun h => (name, hub.board.isDisposed h)

/-- What happened, from the first to the last. -/
def history (hub : Hub σ ο τ π ρ) : List (Incident τ π ρ) := hub.incidents.reverse

/-- The hub with nothing recorded yet. -/
def forget (hub : Hub σ ο τ π ρ) : Hub σ ο τ π ρ := { hub with incidents := [] }

end Hub

end Typeset.Events
