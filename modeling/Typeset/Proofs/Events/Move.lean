import Typeset.Proofs.Events.Confined

/-!
# Moves of a hub

A run of an action, with all that the listeners do meanwhile, is a path of small moves: the state
changes, a listener is subscribed, a handle is disposed, an emission begins, calls a listener or
ends. What every move keeps, every run keeps.

Moves in which no emission has a part are set apart. A relation between the hubs before and after
that follows such moves holds of every run as soon as it holds of emissions.

## Main definitions

* `Events.Hub.Still`: a move in which no emission has a part
* `Events.Hub.Move`: a move
* `Events.Hub.Reaches`: a path of moves
* `Events.Hub.Follows`: a relation that follows the moves without emissions

## Main results

* `Events.Hub.Follows.runWithin`: from emissions to runs
* `Events.Hub.run_reaches`: a run is a path of moves
* `Events.Hub.exists_moment_of_path`: an emission on record began at a moment of the path, for the
  listeners of that moment
-/

namespace Typeset.Events.Hub

variable {σ ο τ π ρ : Type} [DecidableEq τ] {m : Machine σ ο τ π}

/-! ## What may happen to a hub -/

/-- A move in which no emission has a part. -/
inductive Still (m : Machine σ ο τ π) : Hub σ ο τ π ρ → Hub σ ο τ π ρ → Prop where
  | operate (hub : Hub σ ο τ π ρ) (op : ο) :
    Still m hub { hub with state := (m.perform op hub.state).1 }
  | report (hub : Hub σ ο τ π ρ) (r : ρ) : Still m hub (hub.record (.report r))
  | take {hub hub' : Hub σ ο τ π ρ} {id : ListenerId} {i : Nat} {a : Action ο τ π ρ}
    (h : hub.takeAction id i = some (a, hub')) : Still m hub hub'
  | listen (hub : Hub σ ο τ π ρ) (l : Listener ο τ π ρ) :
    Still m hub { hub with listeners := hub.listeners ++ [l] }
  | subscribe (hub : Hub σ ο τ π ρ) (name : String) (channel : τ) (id : ListenerId) :
    Still m hub (hub.subscribe name channel id)
  | bare (hub : Hub σ ο τ π ρ) (name : String) :
    Still m hub (hub.nameHandle name (hub.board.add none))
  | group (hub : Hub σ ο τ π ρ) (name : String) (members : List Handle) :
    Still m hub (hub.nameHandle name (hub.board.group members))
  | extend (hub : Hub σ ο τ π ρ) (h : Handle) (members : List Handle) :
    Still m hub { hub with board := hub.board.extend h members }
  | dispose (hub : Hub σ ο τ π ρ) (h : Handle) :
    Still m hub { hub with board := hub.board.dispose h }
  | clear (hub : Hub σ ο τ π ρ) (channel : τ) :
    Still m hub { hub with board := hub.board.clear channel }

theorem Still.of_tacit {P : ο → Prop} {hub hub' : Hub σ ο τ π ρ} (t : Tacit P hub hub') :
    Still m hub hub' := by
  cases t with
  | report r => exact .report _ r
  | take h => exact .take h
  | listen h => exact .listen _ _
  | subscribe name channel id => exact .subscribe _ name channel id
  | bare name => exact .bare _ name
  | group name members => exact .group _ name members
  | extend h members => exact .extend _ h members
  | dispose h => exact .dispose _ h

/-- A move of a hub. -/
inductive Move (m : Machine σ ο τ π) : Hub σ ο τ π ρ → Hub σ ο τ π ρ → Prop where
  | still {hub hub' : Hub σ ο τ π ρ} (h : Still m hub hub') : Move m hub hub'
  | begun (hub : Hub σ ο τ π ρ) (channel : τ) (payload : π) : Move m hub (hub.begun channel payload)
  | called (hub : Hub σ ο τ π ρ) (emission : Nat) (id : ListenerId) (payload : π) :
    Move m hub (hub.record (.called emission id payload))
  | left (hub : Hub σ ο τ π ρ) (emission : Nat) (id : ListenerId) (fault : Option Fault) :
    Move m hub (hub.record (.left emission id fault))
  | fault (hub : Hub σ ο τ π ρ) (channel : τ) (fault : Fault) :
    Move m hub (hub.record (.fault channel fault))
  | ended (hub : Hub σ ο τ π ρ) (emission : Nat) : Move m hub (hub.record (.ended emission))

/-- A path of moves. -/
abbrev Reaches (m : Machine σ ο τ π) : Hub σ ο τ π ρ → Hub σ ο τ π ρ → Prop :=
  Relation.ReflTransGen (Move m)

/-! ## From emissions to runs -/

/-- A relation between a hub and the same hub later that follows the moves without emissions. -/
structure Follows (m : Machine σ ο τ π) (R : Hub σ ο τ π ρ → Hub σ ο τ π ρ → Prop) : Prop where
  refl : ∀ hub, R hub hub
  trans : ∀ {a b c}, R a b → R b c → R a c
  still : ∀ {a b}, Still m a b → R a b

namespace Follows

variable {R : Hub σ ο τ π ρ → Hub σ ο τ π ρ → Prop} (hR : Follows m R)
include hR

/-- Any operation may be asked for. -/
theorem governs : Governs (fun _ => True) R where
  refl := hR.refl
  trans := hR.trans
  tacit t := hR.still (.of_tacit t)
  confined _ _ := confined_of_forall fun _ => trivial

theorem recordAll (hub : Hub σ ο τ π ρ) (rs : List ρ) : R hub (hub.recordAll rs) :=
  hR.governs.recordAll hub rs

/-- The listeners of a hub may ask for anything. -/
theorem runPlan {act : Action ο τ π ρ → Hub σ ο τ π ρ → Hub σ ο τ π ρ × Option Fault}
    (hact : ∀ a hub, R hub (act a hub).1) (id : ListenerId) (places : List Nat)
    (hub : Hub σ ο τ π ρ) : R hub (runPlan act id places hub).1 :=
  hR.governs.runPlan (fun a hub _ _ => hact a hub) id places (confined_of_forall fun _ => trivial)

/-- A relation that holds of every emission, as long as it holds of what the listeners do, holds of
every run. An operation changes the state, and then its effects come one after another. -/
theorem runWithin
    (hemit : ∀ act, (∀ a hub, R hub (act a hub).1) →
      ∀ hub channel payload, R hub (hub.emit act channel payload))
    (fuel : Nat) (a : Action ο τ π ρ) (hub : Hub σ ο τ π ρ) : R hub (runWithin m fuel a hub).1 := by
  refine hR.governs.runWithin (fun act hact op hub _ _ => ?_) fuel
    (Action.confined_of_forall (fun _ => trivial) a) (confined_of_forall fun _ => trivial)
  have hact (a : Action ο τ π ρ) (hub : Hub σ ο τ π ρ) : R hub (act a hub).1 :=
    hact a hub (Action.confined_of_forall (fun _ => trivial) a)
      (confined_of_forall fun _ => trivial)
  have happly (e : Effect τ π) (h : Hub σ ο τ π ρ) : R h (h.apply act e) := by
    cases e with
    | emit channel payload => exact hemit act hact h channel payload
    | clear channel => exact hR.still (.clear h channel)
  refine List.foldlRecOn (motive := R hub) _ _ (hR.still (.operate hub op)) fun h hh e _ => ?_
  exact hR.trans hh (happly e h)

theorem runEach
    (hemit : ∀ act, (∀ a hub, R hub (act a hub).1) →
      ∀ hub channel payload, R hub (hub.emit act channel payload))
    (actions : List (Action ο τ π ρ)) (hub : Hub σ ο τ π ρ) : R hub (hub.runEach m actions) := by
  unfold Hub.runEach
  refine List.foldlRecOn (motive := R hub) _ _ (hR.refl hub) fun h hh a _ => ?_
  exact hR.trans hh (hR.runWithin hemit _ a h)

end Follows

/-! ## Runs are paths of moves -/

theorem follows_reaches : Follows (ρ := ρ) m (Reaches m) where
  refl _ := .refl
  trans := Relation.ReflTransGen.trans
  still h := .single (.still h)

section Emit

variable {act : Action ο τ π ρ → Hub σ ο τ π ρ → Hub σ ο τ π ρ × Option Fault}
  (hact : ∀ a hub, Reaches m hub (act a hub).1)
include hact

theorem call_reaches (emission : Nat) (channel : τ) (payload : π) (hub : Hub σ ο τ π ρ)
    (id : ListenerId) : Reaches m hub (call act emission channel payload hub id) := by
  obtain ⟨hub', hran, hleft⟩ := follows_reaches.governs.call (fun a hub _ _ => hact a hub) emission
    channel payload (confined_of_forall fun _ => trivial) id
  have hcalled : Reaches m hub hub' := hran.head (.called hub emission id payload)
  rcases hleft with heq | ⟨fault, heq⟩ <;> rw [heq]
  · exact hcalled.tail (.left _ emission id none)
  · exact (hcalled.tail (.left _ emission id (some fault))).tail (.fault _ channel fault)

theorem emit_reaches (hub : Hub σ ο τ π ρ) (channel : τ) (payload : π) :
    Reaches m hub (hub.emit act channel payload) := by
  refine .tail ?_ (.ended _ hub.emissions)
  refine List.foldlRecOn (motive := Reaches m hub) _ _ (.single (.begun hub channel payload))
    fun h hh id _ => ?_
  exact hh.trans (call_reaches hact _ channel payload h id)

end Emit

/-- A run is a path of moves. -/
theorem run_reaches (m : Machine σ ο τ π) (a : Action ο τ π ρ) (hub : Hub σ ο τ π ρ) :
    Reaches m hub (run m a hub).1 :=
  follows_reaches.runWithin (fun _ hact => emit_reaches hact) _ a hub

theorem runEach_reaches (m : Machine σ ο τ π) (actions : List (Action ο τ π ρ))
    (hub : Hub σ ο τ π ρ) : Reaches m hub (hub.runEach m actions) :=
  follows_reaches.runEach (fun _ hact => emit_reaches hact) actions hub

/-! ## Moves and the history -/

omit [DecidableEq τ] in
@[simp] theorem history_record (hub : Hub σ ο τ π ρ) (i : Incident τ π ρ) :
    (hub.record i).history = hub.history ++ [i] := by
  simp [history, record]

/-- A move in which no emission has a part leaves at most a report. -/
theorem Still.history {hub hub' : Hub σ ο τ π ρ} (h : Still m hub hub') :
    ∃ rs : List ρ, hub'.history = hub.history ++ rs.map .report ∧
      hub'.emissions = hub.emissions := by
  cases h with
  | report r => exact ⟨[r], history_record hub _, rfl⟩
  | take h =>
    obtain ⟨_, _, _, -, -, -, -, rfl⟩ := takeAction_eq_some h
    exact ⟨[], (List.append_nil _).symm, rfl⟩
  | _ => exact ⟨[], (List.append_nil _).symm, rfl⟩

/-- A move adds to the history, and an emission on record began with its move. -/
theorem Move.history {hub hub' : Hub σ ο τ π ρ} (h : Move m hub hub') :
    ∃ is, hub'.history = hub.history ++ is ∧ ∀ n channel payload audience,
      .begun n channel payload audience ∈ is →
        hub' = hub.begun channel payload ∧ hub.emissions = n ∧
          hub.board.listeners channel = audience := by
  cases h with
  | still h =>
    obtain ⟨rs, hh, -⟩ := h.history
    exact ⟨_, hh, by simp⟩
  | begun channel payload =>
    refine ⟨_, history_record _ _, fun n c p audience h => ?_⟩
    obtain ⟨rfl, rfl, rfl, rfl⟩ : n = hub.emissions ∧ c = channel ∧ p = payload ∧
      audience = hub.board.listeners channel := by simpa using h
    exact ⟨rfl, rfl, rfl⟩
  | _ => exact ⟨_, history_record _ _, by simp⟩

/-- What is on record after a path was there before or came with it, and an emission that came with
it began at a moment of the path, for the listeners of that moment. The path may be one of moves of
some kind only. The last move left the incident, or it was there before that. -/
theorem exists_moment_of_path {R : Hub σ ο τ π ρ → Hub σ ο τ π ρ → Prop}
    (hR : ∀ {a b}, R a b → Move m a b) {hub hub' : Hub σ ο τ π ρ}
    (h : Relation.ReflTransGen R hub hub') :
    ∃ is, hub'.history = hub.history ++ is ∧ ∀ n channel payload audience,
      .begun n channel payload audience ∈ is →
        ∃ moment, Relation.ReflTransGen R hub moment ∧
          Relation.ReflTransGen R (moment.begun channel payload) hub' ∧
          moment.emissions = n ∧ moment.board.listeners channel = audience := by
  induction h with
  | refl => exact ⟨[], (List.append_nil _).symm, by simp⟩
  | @tail mid hub' hpath hmove ih =>
    obtain ⟨is, hh, hbegun⟩ := ih
    obtain ⟨js, hh', hbegun'⟩ := (hR hmove).history
    refine ⟨is ++ js, by rw [hh', hh, List.append_assoc], fun n channel payload audience hmem => ?_⟩
    rcases List.mem_append.mp hmem with hmem | hmem
    · obtain ⟨moment, hbefore, hafter, hn, ha⟩ := hbegun n channel payload audience hmem
      exact ⟨moment, hbefore, hafter.tail hmove, hn, ha⟩
    · obtain ⟨rfl, hn, ha⟩ := hbegun' n channel payload audience hmem
      exact ⟨mid, hpath, .refl, hn, ha⟩

theorem Reaches.exists_moment {hub hub' : Hub σ ο τ π ρ} (h : Reaches m hub hub') :
    ∃ is, hub'.history = hub.history ++ is ∧ ∀ n channel payload audience,
      .begun n channel payload audience ∈ is →
        ∃ moment, Reaches m hub moment ∧ Reaches m (moment.begun channel payload) hub' ∧
          moment.emissions = n ∧ moment.board.listeners channel = audience :=
  exists_moment_of_path id h

end Typeset.Events.Hub
