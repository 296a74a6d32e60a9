import Typeset.Proofs.Events.Account
import Typeset.Proofs.Events.Run

/-!
# Runs confined to some operations

A run in which the owner of a hub and its listeners ask for some operations only. What else they do
does not touch the state of the machine, tells nobody anything and clears no channel. A relation
between a hub and the same hub later that follows all of this holds of every such run as soon as it
holds of the operations, each with all that the listeners do meanwhile.

## Main definitions

* `Events.Action.Confined`, `Events.Hub.Confined`: only some operations may be asked for
* `Events.Hub.Tacit`: a move without an operation and without an emission
* `Events.Hub.Governs`: a relation that follows these moves
* `Events.Hub.runEach`: actions of the owner one after another

## Main results

* `Events.Hub.Governs.runWithin`, `Events.Hub.Governs.runEach`: from operations to runs
* `Events.Hub.Governs.call`: what happens while a listener is called
-/

namespace Typeset.Events

variable {σ ο τ π ρ : Type}

/-! ## Confined actions -/

namespace Action

mutual

/-- Every operation that an action may lead to is one of `P`. -/
def Confined (P : ο → Prop) : Action ο τ π ρ → Prop
  | .operate op => P op
  | .listen _ _ _ plan => PlanConfined P plan
  | .scoped _ actions => ListConfined P actions
  | .all actions => ListConfined P actions
  | .later _ a => Confined P a
  | _ => True

/-- Every operation that a plan may lead to is one of `P`. -/
def PlanConfined (P : ο → Prop) : List (Nat × Action ο τ π ρ) → Prop
  | [] => True
  | (_, a) :: plan => Confined P a ∧ PlanConfined P plan

/-- Every operation that a list of actions may lead to is one of `P`. -/
def ListConfined (P : ο → Prop) : List (Action ο τ π ρ) → Prop
  | [] => True
  | a :: actions => Confined P a ∧ ListConfined P actions

end

variable {P : ο → Prop}

mutual

theorem confined_of_forall (h : ∀ op, P op) : ∀ a : Action ο τ π ρ, a.Confined P
  | .operate op => h op
  | .listen _ _ _ plan => planConfined_of_forall h plan
  | .scoped _ actions => listConfined_of_forall h actions
  | .all actions => listConfined_of_forall h actions
  | .later _ a => confined_of_forall h a
  | .listenAgain .. | .bare _ | .group .. | .extend .. | .dispose _ | .tell _ | .fail _ => trivial

theorem planConfined_of_forall (h : ∀ op, P op) :
    ∀ plan : List (Nat × Action ο τ π ρ), PlanConfined P plan
  | [] => trivial
  | (_, a) :: plan => ⟨confined_of_forall h a, planConfined_of_forall h plan⟩

theorem listConfined_of_forall (h : ∀ op, P op) :
    ∀ actions : List (Action ο τ π ρ), ListConfined P actions
  | [] => trivial
  | a :: actions => ⟨confined_of_forall h a, listConfined_of_forall h actions⟩

end

theorem planConfined_iff {plan : List (Nat × Action ο τ π ρ)} :
    PlanConfined P plan ↔ ∀ e ∈ plan, e.2.Confined P := by
  induction plan with
  | nil => simp [PlanConfined]
  | cons e plan ih =>
    obtain ⟨times, a⟩ := e
    rw [PlanConfined, ih, List.forall_mem_cons]

/-- An entry of a plan may be replaced by one that is confined as well. -/
theorem PlanConfined.set {plan : List (Nat × Action ο τ π ρ)} (h : PlanConfined P plan) (i : Nat)
    {e : Nat × Action ο τ π ρ} (he : e.2.Confined P) : PlanConfined P (plan.set i e) := by
  rw [planConfined_iff] at h ⊢
  intro e' he'
  rcases List.mem_or_eq_of_mem_set he' with hmem | rfl
  · exact h e' hmem
  · exact he

end Action

namespace Hub

/-- Every operation that the listeners of a hub may still ask for is one of `P`. -/
def Confined (P : ο → Prop) (hub : Hub σ ο τ π ρ) : Prop :=
  ∀ l ∈ hub.listeners, Action.PlanConfined P l.plan

variable {P : ο → Prop}

theorem confined_of_forall (h : ∀ op, P op) {hub : Hub σ ο τ π ρ} : hub.Confined P := fun l _ =>
  Action.planConfined_of_forall h l.plan

/-- What is taken from a plan is confined, and so is what is left of it. -/
theorem Confined.takeAction {hub hub' : Hub σ ο τ π ρ} {id : ListenerId} {i : Nat}
    {a : Action ο τ π ρ} (hhub : hub.Confined P) (h : hub.takeAction id i = some (a, hub')) :
    a.Confined P ∧ hub'.Confined P := by
  unfold Hub.takeAction at h
  split at h
  · exact absurd h (by simp)
  · rename_i l hl
    have hplan : Action.PlanConfined P l.plan := hhub l (List.mem_of_getElem? hl)
    have hset {e : Nat × Action ο τ π ρ} (he : e.2.Confined P) :
        Confined P { hub with
          listeners := hub.listeners.set id { l with plan := l.plan.set i e } } := by
      intro l' hl'
      rcases List.mem_or_eq_of_mem_set hl' with hmem | rfl
      · exact hhub l' hmem
      · exact hplan.set i he
    split at h
    · rename_i times turns b hp
      obtain ⟨rfl, rfl⟩ : Action.tell [] = a ∧ _ = hub' := by simpa using h
      have hb : (Action.later (turns + 1) b).Confined P :=
        Action.planConfined_iff.mp hplan _ (List.mem_of_getElem? hp)
      rw [Action.Confined] at hb
      exact ⟨by simp [Action.Confined], hset (by rwa [Action.Confined])⟩
    · rename_i times b _ hp
      obtain ⟨rfl, rfl⟩ : b = a ∧ _ = hub' := by simpa using h
      have hb := Action.planConfined_iff.mp hplan _ (List.mem_of_getElem? hp)
      exact ⟨hb, hset hb⟩
    · exact absurd h (by simp)

variable [DecidableEq τ]

/-! ## Moves without operations and emissions -/

/-- A move that neither operates the machine nor has a part in an emission. -/
inductive Tacit (P : ο → Prop) : Hub σ ο τ π ρ → Hub σ ο τ π ρ → Prop where
  | report (hub : Hub σ ο τ π ρ) (r : ρ) : Tacit P hub (hub.record (.report r))
  | take {hub hub' : Hub σ ο τ π ρ} {id : ListenerId} {i : Nat} {a : Action ο τ π ρ}
    (h : hub.takeAction id i = some (a, hub')) : Tacit P hub hub'
  | listen (hub : Hub σ ο τ π ρ) {l : Listener ο τ π ρ} (h : Action.PlanConfined P l.plan) :
    Tacit P hub { hub with listeners := hub.listeners ++ [l] }
  | subscribe (hub : Hub σ ο τ π ρ) (name : String) (channel : τ) (id : ListenerId) :
    Tacit P hub (hub.subscribe name channel id)
  | bare (hub : Hub σ ο τ π ρ) (name : String) :
    Tacit P hub (hub.nameHandle name (hub.board.add none))
  | group (hub : Hub σ ο τ π ρ) (name : String) (members : List Handle) :
    Tacit P hub (hub.nameHandle name (hub.board.group members))
  | extend (hub : Hub σ ο τ π ρ) (h : Handle) (members : List Handle) :
    Tacit P hub { hub with board := hub.board.extend h members }
  | dispose (hub : Hub σ ο τ π ρ) (h : Handle) :
    Tacit P hub { hub with board := hub.board.dispose h }

namespace Tacit

variable {hub hub' : Hub σ ο τ π ρ}

theorem confined (t : Tacit P hub hub') (h : hub.Confined P) : hub'.Confined P := by
  cases t with
  | take ht => exact (h.takeAction ht).2
  | listen hl =>
    intro l hmem
    rcases List.mem_append.mp hmem with hmem | hmem
    · exact h l hmem
    · exact List.mem_singleton.mp hmem ▸ hl
  | _ => exact h

theorem turns (t : Tacit P hub hub') : Board.Turns hub.board hub'.board := by
  cases t with
  | take ht =>
    obtain ⟨_, _, _, -, -, -, -, rfl⟩ := takeAction_eq_some ht
    exact .refl
  | subscribe name channel id => exact .single (.subscribe _ channel id)
  | bare name => exact .single (.bare _)
  | group name members => exact .single (.group _ members)
  | extend h members => exact Board.extend_turns _ h members
  | dispose h => exact Board.dispose_turns _ h
  | _ => exact .refl

theorem state (t : Tacit P hub hub') : hub'.state = hub.state := by
  cases t with
  | take ht =>
    obtain ⟨_, _, _, -, -, -, -, rfl⟩ := takeAction_eq_some ht
    rfl
  | _ => rfl

/-- At most a report is added to the history. -/
theorem history (t : Tacit P hub hub') :
    ∃ rs : List ρ, hub'.history = hub.history ++ rs.map .report := by
  cases t with
  | report r => exact ⟨[r], by simp [Hub.history, record]⟩
  | take ht =>
    obtain ⟨_, _, _, -, -, -, -, rfl⟩ := takeAction_eq_some ht
    exact ⟨[], (List.append_nil _).symm⟩
  | _ => exact ⟨[], (List.append_nil _).symm⟩

end Tacit

/-! ## From operations to runs -/

/-- The hub after actions of its owner one after another, whatever becomes of each of them. -/
@[irreducible] def runEach (m : Machine σ ο τ π) (actions : List (Action ο τ π ρ))
    (hub : Hub σ ο τ π ρ) : Hub σ ο τ π ρ :=
  actions.foldl (fun hub a => (run m a hub).1) hub

theorem runEach_cons (m : Machine σ ο τ π) (a : Action ο τ π ρ) (actions : List (Action ο τ π ρ))
    (hub : Hub σ ο τ π ρ) : hub.runEach m (a :: actions) = (run m a hub).1.runEach m actions := by
  unfold runEach
  rfl

/-- A relation between a hub and the same hub later that follows the moves without operations and
emissions. -/
structure Governs (P : ο → Prop) (R : Hub σ ο τ π ρ → Hub σ ο τ π ρ → Prop) : Prop where
  refl : ∀ hub, R hub hub
  trans : ∀ {a b c}, R a b → R b c → R a c
  tacit : ∀ {a b}, Tacit P a b → R a b
  confined : ∀ {a b}, R a b → a.Confined P → b.Confined P

namespace Governs

variable {R : Hub σ ο τ π ρ → Hub σ ο τ π ρ → Prop} (hR : Governs P R)
include hR

theorem recordAll (hub : Hub σ ο τ π ρ) (rs : List ρ) : R hub (hub.recordAll rs) := by
  refine List.foldlRecOn (motive := R hub) _ _ (hR.refl hub) fun h hh r _ => ?_
  exact hR.trans hh (hR.tacit (.report h r))

section Act

variable {act : Action ο τ π ρ → Hub σ ο τ π ρ → Hub σ ο τ π ρ × Option Fault}
  (hact : ∀ a hub, a.Confined P → hub.Confined P → R hub (act a hub).1)
include hact

theorem runAll {actions : List (Action ο τ π ρ)} (hactions : Action.ListConfined P actions)
    {hub : Hub σ ο τ π ρ} (hhub : hub.Confined P) : R hub (Hub.runAll act actions hub).1 := by
  induction actions generalizing hub with
  | nil => exact hR.refl hub
  | cons a actions ih =>
    rw [Action.ListConfined] at hactions
    have ha := hact a hub hactions.1 hhub
    rcases hr : act a hub with ⟨hub', _ | fault⟩ <;> rw [hr] at ha
    · rw [runAll_cons_none hr]
      exact hR.trans ha (ih hactions.2 (hR.confined ha hhub))
    · rw [runAll_cons_some hr]
      exact ha

theorem runPlan (id : ListenerId) (places : List Nat) {hub : Hub σ ο τ π ρ}
    (hhub : hub.Confined P) : R hub (Hub.runPlan act id places hub).1 := by
  induction places generalizing hub with
  | nil => exact hR.refl hub
  | cons i places ih =>
    rcases ht : hub.takeAction id i with _ | ⟨a, hub₁⟩
    · rw [runPlan_cons_passed ht]
      exact ih hhub
    · obtain ⟨haP, hhub₁⟩ := hhub.takeAction ht
      have ha := hR.trans (hR.tacit (.take ht)) (hact a hub₁ haP hhub₁)
      rcases hr : act a hub₁ with ⟨hub₂, _ | fault⟩ <;> rw [hr] at ha
      · rw [runPlan_cons_none ht hr]
        exact hR.trans ha (ih (hR.confined ha hhub))
      · rw [runPlan_cons_some ht hr]
        exact ha

/-- A listener is called, acts, and returns or fails. -/
theorem call (emission : Nat) (channel : τ) (payload : π) {hub : Hub σ ο τ π ρ}
    (hhub : hub.Confined P) (id : ListenerId) :
    ∃ hub', R (hub.record (.called emission id payload)) hub' ∧
      (Hub.call act emission channel payload hub id = hub'.record (.left emission id none) ∨
        ∃ fault, Hub.call act emission channel payload hub id =
          (hub'.record (.left emission id (some fault))).record (.fault channel fault)) := by
  have hheard : R (hub.record (.called emission id payload)) (hub.heard emission payload id) :=
    hR.recordAll _ _
  have hran := hR.trans hheard
    (hR.runPlan hact id (List.range (hub.listener id).plan.length) (hR.confined hheard hhub))
  rcases hr : Hub.runPlan act id (List.range (hub.listener id).plan.length)
    (hub.heard emission payload id) with ⟨hub', _ | fault⟩ <;> rw [hr] at hran
  · exact ⟨hub', hran, .inl (call_of_none channel hr)⟩
  · exact ⟨hub', hran, .inr ⟨fault, call_of_some channel hr⟩⟩

theorem step {m : Machine σ ο τ π}
    (hoperate : ∀ op hub, P op → hub.Confined P → R hub (Hub.step m act (.operate op) hub).1)
    {a : Action ο τ π ρ} (ha : a.Confined P) {hub : Hub σ ο τ π ρ} (hhub : hub.Confined P) :
    R hub (Hub.step m act a hub).1 := by
  cases a with
  | operate op => exact hoperate op hub (by rwa [Action.Confined] at ha) hhub
  | listen name channel report plan =>
    rw [Action.Confined] at ha
    exact hR.trans (hR.tacit (.listen hub ha)) (hR.tacit (.subscribe _ name channel _))
  | listenAgain name channel listener =>
    simp only [Hub.step]
    split
    · exact hR.tacit (.subscribe hub name channel _)
    · exact hR.refl hub
  | bare name => exact hR.tacit (.bare hub name)
  | group name members =>
    simp only [Hub.step]
    split
    · exact hR.tacit (.group hub name _)
    · exact hR.refl hub
  | extend name members =>
    simp only [Hub.step]
    split
    · exact hR.tacit (.extend hub _ _)
    · exact hR.refl hub
  | dispose name =>
    simp only [Hub.step]
    split
    · exact hR.tacit (.dispose hub _)
    · exact hR.refl hub
  | «scoped» name actions =>
    rw [Action.Confined] at ha
    simp only [Hub.step]
    split
    · exact hR.trans (hR.runAll hact ha hhub) (hR.tacit (.dispose _ _))
    · exact hR.refl hub
  | all actions =>
    rw [Action.Confined] at ha
    exact hR.runAll hact ha hhub
  | tell reports => exact hR.recordAll hub reports
  | fail fault => exact hR.refl hub
  | later turns a =>
    rw [Action.Confined] at ha
    simp only [Hub.step]
    split
    · exact hact a hub ha hhub
    · exact hR.refl hub

end Act

/-- A relation that holds of every operation, as long as it holds of what the listeners do
meanwhile, holds of every run. -/
theorem runWithin {m : Machine σ ο τ π}
    (hoperate : ∀ act, (∀ a hub, a.Confined P → hub.Confined P → R hub (act a hub).1) →
      ∀ op hub, P op → hub.Confined P → R hub (Hub.step m act (.operate op) hub).1)
    (fuel : Nat) {a : Action ο τ π ρ} (ha : a.Confined P) {hub : Hub σ ο τ π ρ}
    (hhub : hub.Confined P) : R hub (Hub.runWithin m fuel a hub).1 := by
  induction fuel generalizing a hub with
  | zero => exact hR.refl hub
  | succ fuel ih =>
    have hact (a : Action ο τ π ρ) (hub : Hub σ ο τ π ρ) (ha : a.Confined P)
        (hhub : hub.Confined P) : R hub (Hub.runWithin m fuel a hub).1 := ih ha hhub
    exact hR.step hact (hoperate _ hact) ha hhub

/-- What holds of every operation holds of a run of actions one after another. -/
theorem runEach {m : Machine σ ο τ π}
    (hoperate : ∀ act, (∀ a hub, a.Confined P → hub.Confined P → R hub (act a hub).1) →
      ∀ op hub, P op → hub.Confined P → R hub (Hub.step m act (.operate op) hub).1)
    {actions : List (Action ο τ π ρ)} (hactions : ∀ a ∈ actions, a.Confined P)
    {hub : Hub σ ο τ π ρ} (hhub : hub.Confined P) : R hub (Hub.runEach m actions hub) := by
  unfold Hub.runEach
  refine List.foldlRecOn (motive := R hub) _ _ (hR.refl hub) fun h hh a ha => ?_
  exact hR.trans hh (hR.runWithin hoperate _ (hactions a ha) (hR.confined hh hhub))

end Governs

end Hub

end Typeset.Events
