import Typeset.Proofs.Events.Move

/-!
# The operations on a path

Between two moments of a hub operations are carried out one after another, some by the owner and
some by listeners in the middle of an emission. A path of moves is read here with its operations in
the order in which they changed the state. Everything else that happens on the path leaves the state
as it is, so the state at any moment is what these operations make of the first one.

## Main definitions

* `Events.Hub.Aside`: a move that is no operation
* `Events.Hub.Executes`: a path of moves with its operations

## Main results

* `Events.Hub.Executes.state`: the operations of a path make up its state
* `Events.Hub.runEach_executes`: runs are such paths
-/

namespace Typeset.Events.Hub

variable {σ ο τ π ρ : Type} [DecidableEq τ] {m : Machine σ ο τ π}

/-- A move that is no operation. -/
inductive Aside : Hub σ ο τ π ρ → Hub σ ο τ π ρ → Prop where
  | tacit {hub hub' : Hub σ ο τ π ρ} (h : Tacit (fun _ => True) hub hub') : Aside hub hub'
  | clear (hub : Hub σ ο τ π ρ) (channel : τ) :
    Aside hub { hub with board := hub.board.clear channel }
  | begun (hub : Hub σ ο τ π ρ) (channel : τ) (payload : π) : Aside hub (hub.begun channel payload)
  | record (hub : Hub σ ο τ π ρ) (i : Incident τ π ρ) : Aside hub (hub.record i)

theorem Aside.state {hub hub' : Hub σ ο τ π ρ} (h : Aside hub hub') : hub'.state = hub.state := by
  cases h with
  | tacit h => exact h.state
  | _ => rfl

/-- A move is an operation, or it is none. -/
theorem Move.operate_or_aside {hub hub' : Hub σ ο τ π ρ} (h : Move m hub hub') :
    (∃ op, hub' = { hub with state := (m.perform op hub.state).1 }) ∨ Aside hub hub' := by
  cases h with
  | still h =>
    cases h with
    | operate op => exact .inl ⟨op, rfl⟩
    | report r => exact .inr (.record _ _)
    | take h => exact .inr (.tacit (.take h))
    | listen l => exact .inr (.tacit (.listen _ (Action.planConfined_of_forall (fun _ => trivial) _)))
    | subscribe name channel id => exact .inr (.tacit (.subscribe _ name channel id))
    | bare name => exact .inr (.tacit (.bare _ name))
    | group name members => exact .inr (.tacit (.group _ name members))
    | extend h members => exact .inr (.tacit (.extend _ h members))
    | dispose h => exact .inr (.tacit (.dispose _ h))
    | clear channel => exact .inr (.clear _ channel)
  | begun channel payload => exact .inr (.begun _ channel payload)
  | _ => exact .inr (.record _ _)

/-- A path of moves on which the operations `ops` were carried out, in this order. -/
inductive Executes (m : Machine σ ο τ π) (hub : Hub σ ο τ π ρ) :
    List ο → Hub σ ο τ π ρ → Prop where
  | refl : Executes m hub [] hub
  | operate {ops : List ο} {mid : Hub σ ο τ π ρ} (path : Executes m hub ops mid) (op : ο) :
    Executes m hub (ops ++ [op]) { mid with state := (m.perform op mid.state).1 }
  | aside {ops : List ο} {mid hub' : Hub σ ο τ π ρ} (path : Executes m hub ops mid)
    (last : Aside mid hub') : Executes m hub ops hub'

/-- Nothing but the operations makes up the state. -/
theorem Executes.state {hub hub' : Hub σ ο τ π ρ} {ops : List ο} (h : Executes m hub ops hub') :
    hub'.state = ops.foldl (fun s op => (m.perform op s).1) hub.state := by
  induction h with
  | refl => rfl
  | operate _ op ih => rw [List.foldl_append, ← ih, List.foldl_cons, List.foldl_nil]
  | aside _ last ih => rw [last.state, ih]

/-- Every path of moves has its operations. -/
theorem Reaches.exists_executes {hub hub' : Hub σ ο τ π ρ} (h : Reaches m hub hub') :
    ∃ ops, Executes m hub ops hub' := by
  induction h with
  | refl => exact ⟨[], .refl⟩
  | tail _ hmove ih =>
    obtain ⟨ops, path⟩ := ih
    rcases hmove.operate_or_aside with ⟨op, rfl⟩ | haside
    · exact ⟨ops ++ [op], path.operate op⟩
    · exact ⟨ops, path.aside haside⟩

theorem runEach_executes (m : Machine σ ο τ π) (actions : List (Action ο τ π ρ))
    (hub : Hub σ ο τ π ρ) : ∃ ops, Executes m hub ops (hub.runEach m actions) :=
  (runEach_reaches m actions hub).exists_executes

end Typeset.Events.Hub
