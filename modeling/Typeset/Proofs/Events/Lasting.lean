import Typeset.Proofs.Events.Executed

/-!
# Runs without clearing

A channel loses listeners when their handles are disposed, and all of them at once when it is
cleared. Here are the paths of moves on which no channel is cleared; on them the board changes by
turns. A run is such a path if nobody, neither the owner of the hub nor a listener, asks for an
operation that clears a channel.

## Main definitions

* `Events.Hub.Lasting`: a move that clears no channel
* `Events.Hub.Lasts`: a path of such moves
* `Events.Machine.Spares`: an operation that clears no channel

## Main results

* `Events.Hub.Lasts.turns`: what such a path does to the board
* `Events.Hub.Reaches.lasts_or_cleared`: any path, from the last clearing on
* `Events.Hub.runEach_lasts`: runs that are such paths
-/

namespace Typeset.Events

variable {σ ο τ π ρ : Type}

/-- An operation clears no channel, whatever the state. -/
def Machine.Spares (m : Machine σ ο τ π) (op : ο) : Prop :=
  ∀ state, ∀ e ∈ (m.perform op state).2, ∃ channel payload, e = .emit channel payload

namespace Hub

variable [DecidableEq τ] {m : Machine σ ο τ π}

/-- A move that clears no channel: it changes the board in turns, if at all. -/
def Lasting (m : Machine σ ο τ π) (hub hub' : Hub σ ο τ π ρ) : Prop :=
  Move m hub hub' ∧ Board.Turns hub.board hub'.board

/-- A path of moves that clear no channel. -/
abbrev Lasts (m : Machine σ ο τ π) : Hub σ ο τ π ρ → Hub σ ο τ π ρ → Prop :=
  Relation.ReflTransGen (Lasting m)

theorem Lasts.turns {hub hub' : Hub σ ο τ π ρ} (h : Lasts m hub hub') :
    Board.Turns hub.board hub'.board := by
  induction h with
  | refl => exact .refl
  | tail _ last ih => exact ih.trans last.2

theorem Lasting.of_tacit {P : ο → Prop} {hub hub' : Hub σ ο τ π ρ} (t : Tacit P hub hub') :
    Lasting m hub hub' := ⟨.still (.of_tacit t), t.turns⟩

/-- Every other move clears a channel. -/
theorem Move.lasting_or_clear {hub hub' : Hub σ ο τ π ρ} (h : Move m hub hub') :
    Lasting m hub hub' ∨ ∃ channel, hub' = { hub with board := hub.board.clear channel } := by
  rcases h.operate_or_aside with ⟨op, rfl⟩ | haside
  · exact .inl ⟨h, .refl⟩
  · cases haside with
    | tacit t => exact .inl ⟨h, t.turns⟩
    | clear channel => exact .inr ⟨channel, rfl⟩
    | begun channel payload => exact .inl ⟨h, .refl⟩
    | record i => exact .inl ⟨h, .refl⟩

/-- A path clears no channel from its beginning on, or from the last time on that it does. -/
theorem Reaches.lasts_or_cleared {hub hub' : Hub σ ο τ π ρ} (path : Reaches m hub hub') :
    Lasts m hub hub' ∨ ∃ mid channel, Reaches m hub mid ∧
      Lasts m { mid with board := mid.board.clear channel } hub' := by
  induction path with
  | refl => exact .inl .refl
  | tail path last ih =>
    rcases last.lasting_or_clear with last | ⟨channel, rfl⟩
    · rcases ih with h | ⟨mid, channel, hmid, h⟩
      · exact .inl (h.tail last)
      · exact .inr ⟨mid, channel, hmid, h.tail last⟩
    · exact .inr ⟨_, channel, path, .refl⟩

/-! ## Runs -/

/-- A path without clearing after which the listeners still ask for operations of `P` only. -/
def LastsConfined (m : Machine σ ο τ π) (P : ο → Prop) (hub hub' : Hub σ ο τ π ρ) : Prop :=
  Lasts m hub hub' ∧ (hub.Confined P → hub'.Confined P)

variable {P : ο → Prop}

namespace LastsConfined

theorem refl (hub : Hub σ ο τ π ρ) : LastsConfined m P hub hub := ⟨.refl, id⟩

theorem trans {a b c : Hub σ ο τ π ρ} (h : LastsConfined m P a b) (h' : LastsConfined m P b c) :
    LastsConfined m P a c := ⟨h.1.trans h'.1, fun hc => h'.2 (h.2 hc)⟩

/-- A move that leaves the board and the listeners as they are. -/
theorem of_move {hub hub' : Hub σ ο τ π ρ} (move : Move m hub hub')
    (hboard : hub'.board = hub.board) (hlisteners : hub'.listeners = hub.listeners) :
    LastsConfined m P hub hub' := by
  refine ⟨.single ⟨move, hboard ▸ .refl⟩, fun hc => ?_⟩
  rw [Hub.Confined, hlisteners]
  exact hc

end LastsConfined

theorem governs_lastsConfined : Governs (ρ := ρ) P (LastsConfined m P) where
  refl := .refl
  trans := .trans
  tacit t := ⟨.single (.of_tacit t), t.confined⟩
  confined h := h.2

section Emit

variable {act : Action ο τ π ρ → Hub σ ο τ π ρ → Hub σ ο τ π ρ × Option Fault}
  (hact : ∀ a hub, a.Confined P → hub.Confined P → LastsConfined m P hub (act a hub).1)
include hact

theorem call_lasts (emission : Nat) (channel : τ) (payload : π) {hub : Hub σ ο τ π ρ}
    (hhub : hub.Confined P) (id : ListenerId) :
    LastsConfined m P hub (call act emission channel payload hub id) := by
  obtain ⟨hub', hran, hleft⟩ :=
    governs_lastsConfined.call hact emission channel payload hhub id
  have hcalled : LastsConfined m P hub hub' :=
    .trans (.of_move (.called hub emission id payload) rfl rfl) hran
  rcases hleft with heq | ⟨fault, heq⟩ <;> rw [heq]
  · exact hcalled.trans (.of_move (.left _ emission id none) rfl rfl)
  · exact (hcalled.trans (.of_move (.left _ emission id (some fault)) rfl rfl)).trans
      (.of_move (.fault _ channel fault) rfl rfl)

theorem emit_lasts (channel : τ) (payload : π) {hub : Hub σ ο τ π ρ} (hhub : hub.Confined P) :
    LastsConfined m P hub (hub.emit act channel payload) := by
  refine .trans ?_ (.of_move (.ended _ hub.emissions) rfl rfl)
  refine List.foldlRecOn (motive := LastsConfined m P hub) _ _
    (.of_move (.begun hub channel payload) rfl rfl) fun h hh id _ => ?_
  exact hh.trans (call_lasts hact _ channel payload (hh.2 hhub) id)

theorem operate_lasts {op : ο} (hop : m.Spares op) {hub : Hub σ ο τ π ρ} (hhub : hub.Confined P) :
    LastsConfined m P hub (step m act (.operate op) hub).1 := by
  refine List.foldlRecOn (motive := LastsConfined m P hub) _ _
    (.of_move (.still (.operate hub op)) rfl rfl) fun h hh e he => ?_
  obtain ⟨channel, payload, rfl⟩ := hop hub.state e he
  exact hh.trans (emit_lasts hact channel payload (hh.2 hhub))

end Emit

/-- Nobody asks for an operation that clears a channel, so none is cleared. -/
theorem runEach_lasts (hP : ∀ op, P op → m.Spares op) {actions : List (Action ο τ π ρ)}
    (hactions : ∀ a ∈ actions, a.Confined P) {hub : Hub σ ο τ π ρ} (hhub : hub.Confined P) :
    Lasts m hub (hub.runEach m actions) :=
  (governs_lastsConfined.runEach
    (fun _ hact op _ hop hhub => operate_lasts hact (hP op hop) hhub) hactions hhub).1

end Hub

end Typeset.Events
