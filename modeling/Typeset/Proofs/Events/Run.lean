import Typeset.Events.Hub

/-!
# Runs to their end

A hub runs an action within a bound on the actions inside one another, which is the number of
actions that the action and the listeners may still lead to. No run meets its bound. What an action
leaves to run is less than what there was before it, so the actions inside a step are run within
what is left for them, and a run is a step whose inner actions are runs themselves.

## Main definitions

* `Events.Hub.Light`: a way to run actions that uses up at least the action itself
* `Events.Hub.AgreeWithin`: two ways to run actions that do the same within a bound

## Main results

* `Events.Hub.light_runWithin`: every action uses itself up
* `Events.Hub.run_eq`: a run is a step whose inner actions are runs
-/

namespace Typeset.Events

variable {σ ο τ π ρ : Type}

/-! ## Weights -/

/-- A sum over a list after one summand was replaced. -/
private theorem foldr_add_set {α : Type} (f : α → Nat) {xs : List α} {i : Nat} {x : α}
    (h : xs[i]? = some x) (y : α) :
    (xs.set i y).foldr (fun z n => f z + n) 0 + f x = xs.foldr (fun z n => f z + n) 0 + f y := by
  induction xs generalizing i with
  | nil => simp at h
  | cons z xs ih =>
    cases i with
    | zero =>
      obtain rfl : z = x := by simpa using h
      simp only [List.set_cons_zero, List.foldr_cons]
      omega
    | succ i =>
      have := ih (i := i) (by simpa using h)
      simp only [List.set_cons_succ, List.foldr_cons]
      omega

namespace Action

theorem weight_pos (a : Action ο τ π ρ) : 0 < a.weight := by
  cases a <;> simp [weight]

theorem planWeight_eq_foldr (plan : List (Nat × Action ο τ π ρ)) :
    planWeight plan = plan.foldr (fun e n => e.1 * e.2.weight + n) 0 := by
  induction plan with
  | nil => rfl
  | cons e plan ih =>
    obtain ⟨times, a⟩ := e
    rw [planWeight, ih, List.foldr_cons]

end Action

namespace Hub

/-- The weight of a hub after one entry of the plan of a listener was replaced. -/
theorem weight_set {hub : Hub σ ο τ π ρ} {id i : Nat} {l : Listener ο τ π ρ}
    {e : Nat × Action ο τ π ρ} (hl : hub.listeners[id]? = some l) (he : l.plan[i]? = some e)
    (e' : Nat × Action ο τ π ρ) :
    weight { hub with listeners := hub.listeners.set id { l with plan := l.plan.set i e' } } +
        e.1 * e.2.weight = hub.weight + e'.1 * e'.2.weight := by
  have hplan := foldr_add_set (fun e => e.1 * e.2.weight) he e'
  have hlisteners := foldr_add_set (fun l => Action.planWeight l.plan) hl
    { l with plan := l.plan.set i e' }
  simp only [Action.planWeight_eq_foldr] at hlisteners
  simp only [weight, Action.planWeight_eq_foldr]
  omega

theorem weight_listen (hub : Hub σ ο τ π ρ) (l : Listener ο τ π ρ) :
    weight { hub with listeners := hub.listeners ++ [l] } =
      hub.weight + Action.planWeight l.plan := by
  simp only [weight]
  generalize hub.listeners = ls
  induction ls with
  | nil => simp
  | cons l' ls ih =>
    rw [List.cons_append, List.foldr_cons, List.foldr_cons, ih, Nat.add_assoc]

@[simp] theorem weight_record (hub : Hub σ ο τ π ρ) (i : Incident τ π ρ) :
    (hub.record i).weight = hub.weight := rfl

@[simp] theorem weight_recordAll (hub : Hub σ ο τ π ρ) (rs : List ρ) :
    (hub.recordAll rs).weight = hub.weight := by
  induction rs generalizing hub with
  | nil => rfl
  | cons r rs ih =>
    rw [recordAll, List.foldl_cons]
    exact ih (hub.record (.report r))

@[simp] theorem weight_heard (emission : Nat) (payload : π) (hub : Hub σ ο τ π ρ)
    (id : ListenerId) : (hub.heard emission payload id).weight = hub.weight := by
  rw [heard, weight_recordAll, weight_record]

/-- An action is taken from an entry of a plan that may still run. It is paid for by the new entry,
and nothing else changes. One turn less is one unit less for each time that the action may still
run. -/
theorem takeAction_eq_some {hub hub' : Hub σ ο τ π ρ} {id : ListenerId} {i : Nat}
    {a : Action ο τ π ρ} (h : hub.takeAction id i = some (a, hub')) :
    ∃ l e e', hub.listeners[id]? = some l ∧ l.plan[i]? = some e ∧ 0 < e.1 ∧
      a.weight + e'.1 * e'.2.weight ≤ e.1 * e.2.weight ∧
      hub' = { hub with listeners := hub.listeners.set id { l with plan := l.plan.set i e' } } := by
  unfold takeAction at h
  split at h
  · exact absurd h (by simp)
  · rename_i l hl
    split at h
    · rename_i times turns b hp
      obtain ⟨rfl, rfl⟩ : Action.tell [] = a ∧ _ = hub' := by simpa using h
      refine ⟨l, _, (times + 1, .later turns b), hl, hp, Nat.succ_pos times, ?_, rfl⟩
      have hless : (times + 1) * (turns + 1 + b.weight + 1) =
          (times + 1) * (turns + b.weight + 1) + (times + 1) := by
        rw [← Nat.mul_succ]
        congr 1
        omega
      simp only [Action.weight, Nat.succ_eq_add_one]
      omega
    · rename_i times b _ hp
      obtain ⟨rfl, rfl⟩ : b = a ∧ _ = hub' := by simpa using h
      refine ⟨l, _, (times, b), hl, hp, Nat.succ_pos times, ?_, rfl⟩
      simp only [Nat.succ_mul]
      omega
    · exact absurd h (by simp)

theorem takeAction_weight {hub hub' : Hub σ ο τ π ρ} {id : ListenerId} {i : Nat}
    {a : Action ο τ π ρ} (h : hub.takeAction id i = some (a, hub')) :
    a.weight + hub'.weight ≤ hub.weight := by
  obtain ⟨l, e, e', hl, he, -, hpaid, rfl⟩ := takeAction_eq_some h
  have := weight_set hl he e'
  omega

/-! ## Runs of several actions -/

section Unfold

variable {act : Action ο τ π ρ → Hub σ ο τ π ρ → Hub σ ο τ π ρ × Option Fault}
  {hub hub₁ hub₂ : Hub σ ο τ π ρ} {a : Action ο τ π ρ} {fault : Fault}

theorem runAll_cons_none (h : act a hub = (hub₁, none)) (actions : List (Action ο τ π ρ)) :
    runAll act (a :: actions) hub = runAll act actions hub₁ := by
  rw [runAll, h]

theorem runAll_cons_some (h : act a hub = (hub₁, some fault)) (actions : List (Action ο τ π ρ)) :
    runAll act (a :: actions) hub = (hub₁, some fault) := by
  rw [runAll, h]

variable {id : ListenerId} {i : Nat}

theorem runPlan_cons_passed (h : hub.takeAction id i = none) (places : List Nat) :
    runPlan act id (i :: places) hub = runPlan act id places hub := by
  rw [runPlan, h]

theorem runPlan_cons_none (ht : hub.takeAction id i = some (a, hub₁))
    (h : act a hub₁ = (hub₂, none)) (places : List Nat) :
    runPlan act id (i :: places) hub = runPlan act id places hub₂ := by
  rw [runPlan, ht]
  simp only [h]

theorem runPlan_cons_some (ht : hub.takeAction id i = some (a, hub₁))
    (h : act a hub₁ = (hub₂, some fault)) (places : List Nat) :
    runPlan act id (i :: places) hub = (hub₂, some fault) := by
  rw [runPlan, ht]
  simp only [h]

variable {emission : Nat} {payload : π}

theorem call_of_none (channel : τ) (h : runPlan act id (List.range (hub.listener id).plan.length)
    (hub.heard emission payload id) = (hub₁, none)) :
    call act emission channel payload hub id = hub₁.record (.left emission id none) := by
  simp only [call, h]

theorem call_of_some (channel : τ) (h : runPlan act id (List.range (hub.listener id).plan.length)
    (hub.heard emission payload id) = (hub₁, some fault)) :
    call act emission channel payload hub id =
      (hub₁.record (.left emission id (some fault))).record (.fault channel fault) := by
  simp only [call, h]

end Unfold

/-! ## Every action uses itself up -/

/-- A way to run actions that leaves less than the action and the listeners could lead to. -/
def Light (act : Action ο τ π ρ → Hub σ ο τ π ρ → Hub σ ο τ π ρ × Option Fault) : Prop :=
  ∀ a hub, (act a hub).1.weight < a.weight + hub.weight

section Light

variable {act : Action ο τ π ρ → Hub σ ο τ π ρ → Hub σ ο τ π ρ × Option Fault} (hact : Light act)
include hact

/-- Each of the actions uses itself up. -/
theorem Light.runAll (actions : List (Action ο τ π ρ)) (hub : Hub σ ο τ π ρ) :
    (runAll act actions hub).1.weight ≤ Action.listWeight actions + hub.weight := by
  induction actions generalizing hub with
  | nil => simp [Hub.runAll, Action.listWeight]
  | cons a actions ih =>
    have ha := hact a hub
    rw [Action.listWeight]
    rcases hr : act a hub with ⟨hub', _ | fault⟩ <;> rw [hr] at ha
    · rw [runAll_cons_none hr]
      have := ih hub'
      simp only at ha
      omega
    · rw [runAll_cons_some hr]
      simp only at ha ⊢
      omega

/-- An action that is taken was paid for by the plan. -/
theorem Light.runPlan (id : ListenerId) (places : List Nat) (hub : Hub σ ο τ π ρ) :
    (runPlan act id places hub).1.weight ≤ hub.weight := by
  induction places generalizing hub with
  | nil => exact Nat.le_refl _
  | cons i places ih =>
    rcases ht : hub.takeAction id i with _ | ⟨a, hub₁⟩
    · rw [runPlan_cons_passed ht]
      exact ih hub
    · have htaken := takeAction_weight ht
      have ha := hact a hub₁
      rcases hr : act a hub₁ with ⟨hub₂, _ | fault⟩ <;> rw [hr] at ha
      · rw [runPlan_cons_none ht hr]
        have := ih hub₂
        simp only at ha
        omega
      · rw [runPlan_cons_some ht hr]
        simp only at ha ⊢
        omega

theorem Light.call (emission : Nat) (channel : τ) (payload : π) (hub : Hub σ ο τ π ρ)
    (id : ListenerId) : (call act emission channel payload hub id).weight ≤ hub.weight := by
  have hrun := hact.runPlan id (List.range (hub.listener id).plan.length)
    (hub.heard emission payload id)
  rw [weight_heard] at hrun
  rcases hr : Hub.runPlan act id (List.range (hub.listener id).plan.length)
    (hub.heard emission payload id) with ⟨hub', _ | fault⟩ <;> rw [hr] at hrun
  · rw [call_of_none channel hr]
    exact hrun
  · rw [call_of_some channel hr]
    exact hrun

theorem Light.emit (channel : τ) (payload : π) (hub : Hub σ ο τ π ρ) :
    (hub.emit act channel payload).weight ≤ hub.weight := by
  rw [Hub.emit, weight_record]
  refine List.foldlRecOn (motive := fun h => weight h ≤ hub.weight) _ _ (Nat.le_refl _)
    fun h hle id _ => ?_
  exact Nat.le_trans (hact.call _ _ _ h id) hle

variable [DecidableEq τ]

theorem Light.apply (hub : Hub σ ο τ π ρ) (e : Effect τ π) :
    (hub.apply act e).weight ≤ hub.weight := by
  cases e with
  | emit channel payload => exact hact.emit channel payload hub
  | clear channel => exact Nat.le_refl _

/-- The action itself is used up, and the plan of a new listener is part of its weight. -/
theorem Light.step (m : Machine σ ο τ π) : Light (step m act) := by
  intro a hub
  cases a with
  | operate op =>
    have hle : (Hub.step m act (.operate op) hub).1.weight ≤ hub.weight := by
      refine List.foldlRecOn (motive := fun h => weight h ≤ hub.weight) _ _ (Nat.le_refl _)
        fun h hle e _ => ?_
      exact Nat.le_trans (hact.apply h e) hle
    simp only [Action.weight]
    omega
  | listen name channel report plan =>
    have := weight_listen hub { report := report, plan := plan }
    simp only [Hub.step, Action.weight, subscribe, nameHandle, weight] at this ⊢
    omega
  | «scoped» name actions =>
    have := hact.runAll actions hub
    simp only [Hub.step, Action.weight]
    split
    · simp only [weight] at this ⊢
      omega
    · simp only
      omega
  | all actions =>
    have := hact.runAll actions hub
    simp only [Hub.step, Action.weight]
    omega
  | tell reports =>
    simp only [Hub.step, Action.weight, weight_recordAll]
    omega
  | later turns a =>
    have := hact a hub
    simp only [Hub.step, Action.weight]
    split
    · omega
    · simp only
      omega
  | _ =>
    simp only [Hub.step, Action.weight]
    (try split) <;> exact Nat.lt_add_of_pos_left Nat.one_pos

end Light

theorem light_runWithin [DecidableEq τ] (m : Machine σ ο τ π) (fuel : Nat) :
    Light (ρ := ρ) (runWithin m fuel) := by
  induction fuel with
  | zero => exact fun a hub => Nat.lt_add_of_pos_left a.weight_pos
  | succ fuel ih => exact ih.step m

/-! ## The bound is not met -/

/-- Two ways to run actions do the same as long as there is no more than `n` to run. -/
def AgreeWithin (n : Nat)
    (act act' : Action ο τ π ρ → Hub σ ο τ π ρ → Hub σ ο τ π ρ × Option Fault) : Prop :=
  ∀ a hub, a.weight + hub.weight ≤ n → act a hub = act' a hub

section Agree

variable {n : Nat} {act act' : Action ο τ π ρ → Hub σ ο τ π ρ → Hub σ ο τ π ρ × Option Fault}
  (hact : Light act) (hag : AgreeWithin n act act')
include hact hag

/-- After each of the actions there is less to run. -/
theorem AgreeWithin.runAll (actions : List (Action ο τ π ρ)) (hub : Hub σ ο τ π ρ)
    (hn : Action.listWeight actions + hub.weight ≤ n) :
    runAll act actions hub = runAll act' actions hub := by
  induction actions generalizing hub with
  | nil => rfl
  | cons a actions ih =>
    rw [Action.listWeight] at hn
    have ha := hact a hub
    have hsame := hag a hub (by omega)
    rcases hr : act a hub with ⟨hub', _ | fault⟩ <;> rw [hr] at ha hsame
    · rw [runAll_cons_none hr, runAll_cons_none hsame.symm]
      simp only at ha
      exact ih hub' (by omega)
    · rw [runAll_cons_some hr, runAll_cons_some hsame.symm]

theorem AgreeWithin.runPlan (id : ListenerId) (places : List Nat) (hub : Hub σ ο τ π ρ)
    (hn : hub.weight ≤ n) : runPlan act id places hub = runPlan act' id places hub := by
  induction places generalizing hub with
  | nil => rfl
  | cons i places ih =>
    rcases ht : hub.takeAction id i with _ | ⟨a, hub₁⟩
    · rw [runPlan_cons_passed ht, runPlan_cons_passed ht]
      exact ih hub hn
    · have htaken := takeAction_weight ht
      have ha := hact a hub₁
      have hsame := hag a hub₁ (by omega)
      rcases hr : act a hub₁ with ⟨hub₂, _ | fault⟩ <;> rw [hr] at ha hsame
      · rw [runPlan_cons_none ht hr, runPlan_cons_none ht hsame.symm]
        simp only at ha
        exact ih hub₂ (by omega)
      · rw [runPlan_cons_some ht hr, runPlan_cons_some ht hsame.symm]

theorem AgreeWithin.call (emission : Nat) (channel : τ) (payload : π) (hub : Hub σ ο τ π ρ)
    (id : ListenerId) (hn : hub.weight ≤ n) :
    call act emission channel payload hub id = call act' emission channel payload hub id := by
  rw [Hub.call, Hub.call, hag.runPlan hact _ _ _ (by simpa using hn)]

theorem AgreeWithin.emit (channel : τ) (payload : π) (hub : Hub σ ο τ π ρ)
    (hn : hub.weight ≤ n) : hub.emit act channel payload = hub.emit act' channel payload := by
  have key (ids : List ListenerId) (h : Hub σ ο τ π ρ) (hw : h.weight ≤ n) :
      ids.foldl (Hub.call act hub.emissions channel payload) h =
        ids.foldl (Hub.call act' hub.emissions channel payload) h := by
    induction ids generalizing h with
    | nil => rfl
    | cons id ids ih =>
      rw [List.foldl_cons, List.foldl_cons, ← hag.call hact _ _ _ h id hw]
      exact ih _ (Nat.le_trans (hact.call _ _ _ h id) hw)
  rw [Hub.emit, Hub.emit]
  exact congrArg (Hub.record · _) (key _ _ hn)

theorem AgreeWithin.step [DecidableEq τ] (m : Machine σ ο τ π) :
    AgreeWithin (n + 1) (step m act) (step m act') := by
  intro a hub hn
  cases a with
  | operate op =>
    have key (es : List (Effect τ π)) (h : Hub σ ο τ π ρ) (hw : h.weight ≤ n) :
        es.foldl (Hub.apply act) h = es.foldl (Hub.apply act') h := by
      induction es generalizing h with
      | nil => rfl
      | cons e es ih =>
        have he : h.apply act e = h.apply act' e := by
          cases e with
          | emit channel payload => exact hag.emit hact channel payload h hw
          | clear channel => rfl
        rw [List.foldl_cons, List.foldl_cons, ← he]
        exact ih _ (Nat.le_trans (hact.apply h e) hw)
    simp only [Action.weight] at hn
    exact congrArg (·, none) (key _ _ (show hub.weight ≤ n by omega))
  | «scoped» name actions =>
    rw [Action.weight] at hn
    simp only [Hub.step]
    rw [hag.runAll hact actions hub (by omega)]
  | all actions =>
    rw [Action.weight] at hn
    exact hag.runAll hact actions hub (by omega)
  | later turns a =>
    rw [Action.weight] at hn
    simp only [Hub.step]
    rw [hag a hub (by omega)]
  | _ => rfl

end Agree

variable [DecidableEq τ]

/-- A step has more to run than what runs inside it. -/
theorem agreeWithin_runWithin (m : Machine σ ο τ π) {n fuel fuel' : Nat} (h : n ≤ fuel)
    (h' : n ≤ fuel') : AgreeWithin (ρ := ρ) n (runWithin m fuel) (runWithin m fuel') := by
  induction n generalizing fuel fuel' with
  | zero =>
    intro a hub hn
    have := a.weight_pos
    omega
  | succ n ih =>
    obtain ⟨fuel, rfl⟩ := Nat.exists_eq_add_one_of_ne_zero (Nat.ne_of_gt (Nat.zero_lt_of_lt h))
    obtain ⟨fuel', rfl⟩ := Nat.exists_eq_add_one_of_ne_zero (Nat.ne_of_gt (Nat.zero_lt_of_lt h'))
    exact (ih (Nat.le_of_succ_le_succ h) (Nat.le_of_succ_le_succ h')).step (light_runWithin m fuel) m

/-- The actions inside an action run to their end: the bound on a run is never met. What runs inside
has less to run than the action, and its own bound is as good as that of the action. -/
theorem run_eq (m : Machine σ ο τ π) (a : Action ο τ π ρ) (hub : Hub σ ο τ π ρ) :
    run m a hub = step m (run m) a hub := by
  obtain ⟨n, hn⟩ := Nat.exists_eq_add_one_of_ne_zero
    (Nat.ne_of_gt (Nat.add_pos_left a.weight_pos hub.weight))
  have hinner : AgreeWithin (ρ := ρ) n (runWithin m n) (run m) := fun b h hb =>
    agreeWithin_runWithin m hb (Nat.le_refl _) b h (Nat.le_refl _)
  rw [run, hn]
  exact hinner.step (light_runWithin m n) m a hub (Nat.le_of_eq hn)

end Hub

end Typeset.Events
