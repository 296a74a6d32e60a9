import Typeset.Proofs.Events.Move

/-!
# Scripts

What a listener does may be another thing at each of its calls. A script gives its actions call by
call, and is a plan: the actions of a call wait until all the calls before it have begun. So a
statement about all plans is one about listeners that do anything at any of their calls, any number
of times.

The actions of the later calls stand first. When a listener that is still in its call is called
again, the turns of the later calls have been counted by then.

## Main definitions

* `Events.script`: the plan that takes given actions at each call
* `Events.Hub.Scripted`: a listener has the calls of a script before it

## Main results

* `Events.Hub.scripted_listen`: a new listener may have any script
* `Events.Hub.Scripted.move`: nothing but a call of the listener touches its script
* `Events.Hub.Scripted.runPlan`: a call takes the actions that the script has for it
-/

namespace Typeset.Events

variable {σ ο τ π ρ : Type}

/-! ## Scripts as plans -/

/-- The actions of each call behind the number of calls before it; the later calls stand first. -/
def turns (bs : List (List (Action ο τ π ρ))) : List (Nat × Action ο τ π ρ) :=
  bs.zipIdx.reverse.map fun b => (b.2, .all b.1)

/-- Actions that wait for their turns and then run once. -/
def waiting (es : List (Nat × Action ο τ π ρ)) : List (Nat × Action ο τ π ρ) :=
  es.map fun e => (1, .later e.1 e.2)

/-- The plan of a listener that takes the actions `bs`, those of one call after those of the
other. -/
def script (bs : List (List (Action ο τ π ρ))) : List (Nat × Action ο τ π ρ) := waiting (turns bs)

theorem waiting_append (es fs : List (Nat × Action ο τ π ρ)) :
    waiting (es ++ fs) = waiting es ++ waiting fs := List.map_append

theorem turns_cons (b : List (Action ο τ π ρ)) (bs : List (List (Action ο τ π ρ))) :
    turns (b :: bs) = (turns bs).map (fun e => (e.1 + 1, e.2)) ++ [(0, .all b)] := by
  simp only [turns, List.zipIdx_cons, List.zipIdx_succ, List.reverse_cons, List.map_append,
    List.map_reverse, List.map_map, List.map_cons, List.map_nil, Nat.zero_add]
  rfl

namespace Hub

/-! ## Taking actions from the plan of one listener -/

/-- The hub where a listener has a plan. -/
def withPlan (hub : Hub σ ο τ π ρ) (id : ListenerId) (l : Listener ο τ π ρ)
    (plan : List (Nat × Action ο τ π ρ)) : Hub σ ο τ π ρ :=
  { hub with listeners := hub.listeners.set id { l with plan := plan } }

variable {hub : Hub σ ο τ π ρ} {id : ListenerId} {l : Listener ο τ π ρ}

theorem withPlan_self (hl : hub.listeners[id]? = some l) : hub.withPlan id l l.plan = hub := by
  obtain ⟨hid, rfl⟩ := List.getElem?_eq_some_iff.mp hl
  have hset : hub.listeners.set id hub.listeners[id] = hub.listeners := List.set_getElem_self hid
  exact congrArg (fun ls => { hub with listeners := ls }) hset

theorem listeners_withPlan (hl : hub.listeners[id]? = some l)
    (plan : List (Nat × Action ο τ π ρ)) :
    (hub.withPlan id l plan).listeners[id]? = some { l with plan := plan } := by
  obtain ⟨hid, -⟩ := List.getElem?_eq_some_iff.mp hl
  exact List.getElem?_set_self hid

/-- An action that waits for more turns waits for one less. -/
theorem takeAction_waiting (hl : hub.listeners[id]? = some l)
    {plan : List (Nat × Action ο τ π ρ)} {i times turns : Nat} {a : Action ο τ π ρ}
    (hi : plan[i]? = some (times + 1, .later (turns + 1) a)) :
    (hub.withPlan id l plan).takeAction id i =
      some (.tell [], hub.withPlan id l (plan.set i (times + 1, .later turns a))) := by
  simp only [takeAction, listeners_withPlan hl, hi]
  simp [withPlan]

/-- An action whose turn has come runs. -/
theorem takeAction_turn (hl : hub.listeners[id]? = some l)
    {plan : List (Nat × Action ο τ π ρ)} {i times : Nat} {a : Action ο τ π ρ}
    (hi : plan[i]? = some (times + 1, .later 0 a)) :
    (hub.withPlan id l plan).takeAction id i =
      some (.later 0 a, hub.withPlan id l (plan.set i (times, .later 0 a))) := by
  simp only [takeAction, listeners_withPlan hl, hi]
  simp [withPlan]

/-! ## What the moves do to the plan of a listener -/

variable [DecidableEq τ] {m : Machine σ ο τ π}

/-- A move leaves a listener as it is, or takes from an entry of its plan that may still run. -/
theorem Move.listener {hub' : Hub σ ο τ π ρ} (h : Move m hub hub')
    (hl : hub.listeners[id]? = some l) :
    hub'.listeners[id]? = some l ∨
      ∃ i a e e', hub.takeAction id i = some (a, hub') ∧ l.plan[i]? = some e ∧ 0 < e.1 ∧
        hub'.listeners[id]? = some { l with plan := l.plan.set i e' } := by
  obtain ⟨hid, -⟩ := List.getElem?_eq_some_iff.mp hl
  cases h with
  | still h =>
    cases h with
    | @take _ id' i a h =>
      obtain ⟨l', e, e', hl', he, hpos, -, rfl⟩ := takeAction_eq_some h
      by_cases hne : id' = id
      · subst hne
        obtain rfl : l' = l := Option.some.inj (hl'.symm.trans hl)
        exact .inr ⟨i, a, e, e', h, he, hpos, List.getElem?_set_self hid⟩
      · exact .inl ((List.getElem?_set_ne hne).trans hl)
    | listen l' => exact .inl ((List.getElem?_append_left hid).trans hl)
    | _ => exact .inl hl
  | _ => exact .inl hl

/-- An entry of the plan of a listener has run as often as it may, or there is none. -/
def Spent (hub : Hub σ ο τ π ρ) (id : ListenerId) (i : Nat) : Prop :=
  ∃ l, hub.listeners[id]? = some l ∧ ∀ e, l.plan[i]? = some e → e.1 = 0

omit [DecidableEq τ] in
theorem Spent.takeAction {i : Nat} (h : hub.Spent id i) : hub.takeAction id i = none := by
  obtain ⟨l, hl, hspent⟩ := h
  rcases ht : hub.takeAction id i with _ | ⟨a, hub'⟩
  · rfl
  · obtain ⟨l', e, -, hl', he, hpos, -⟩ := takeAction_eq_some ht
    obtain rfl : l' = l := Option.some.inj (hl'.symm.trans hl)
    exact absurd (hspent e he) (Nat.ne_of_gt hpos)

theorem Spent.move {hub' : Hub σ ο τ π ρ} {i : Nat} (h : hub.Spent id i) (hmove : Move m hub hub') :
    hub'.Spent id i := by
  obtain ⟨l, hl, hspent⟩ := h
  rcases hmove.listener hl with hl' | ⟨j, a, e, e', -, he, hpos, hl'⟩
  · exact ⟨l, hl', hspent⟩
  · have hne : j ≠ i := by
      rintro rfl
      exact absurd (hspent e he) (Nat.ne_of_gt hpos)
    exact ⟨_, hl', fun e'' he'' => hspent e'' (by rwa [List.getElem?_set_ne hne] at he'')⟩

theorem Spent.reaches {hub' : Hub σ ο τ π ρ} {i : Nat} (h : hub.Spent id i)
    (hpath : Reaches m hub hub') : hub'.Spent id i := by
  induction hpath with
  | refl => exact h
  | tail _ hmove ih => exact ih.move hmove

omit [DecidableEq τ] in
theorem runPlan_of_spent {act : Action ο τ π ρ → Hub σ ο τ π ρ → Hub σ ο τ π ρ × Option Fault}
    {places : List Nat} (h : ∀ i ∈ places, hub.Spent id i) :
    runPlan act id places hub = (hub, none) := by
  induction places with
  | nil => rfl
  | cons i places ih =>
    rw [runPlan_cons_passed (h i List.mem_cons_self).takeAction]
    exact ih fun j hj => h j (List.mem_cons_of_mem i hj)

/-! ## Listeners that follow a script -/

/-- A listener has the calls `bs` of a script before it; the calls that it had are spent. -/
def Scripted (hub : Hub σ ο τ π ρ) (id : ListenerId) (bs : List (List (Action ο τ π ρ))) : Prop :=
  ∃ l spent, hub.listeners[id]? = some l ∧ l.plan = script bs ++ spent ∧ ∀ e ∈ spent, e.1 = 0

/-- A new listener with a script has all of it before it. -/
theorem scripted_listen (hub : Hub σ ο τ π ρ) (name : String) (channel : τ) (report : π → List ρ)
    (bs : List (List (Action ο τ π ρ))) :
    (run m (.listen name channel report (script bs)) hub).1.Scripted hub.listeners.length bs := by
  rw [run_eq]
  refine ⟨{ report := report, plan := script bs }, [], ?_, (List.append_nil _).symm, by simp⟩
  exact List.getElem?_concat_length

/-- Only a call of the listener touches its script. -/
theorem Scripted.move {hub' : Hub σ ο τ π ρ} {bs : List (List (Action ο τ π ρ))}
    (h : hub.Scripted id bs) (hmove : Move m hub hub')
    (hother : ∀ i a, hub.takeAction id i ≠ some (a, hub')) : hub'.Scripted id bs := by
  obtain ⟨l, spent, hl, hplan, hspent⟩ := h
  rcases hmove.listener hl with hl' | ⟨i, a, _, _, ht, -⟩
  · exact ⟨l, spent, hl', hplan, hspent⟩
  · exact absurd ht (hother i a)

/-- The later calls of a script wait for one turn less, and nothing else happens. The turns of the
calls in `pre` are counted already. -/
theorem runPlan_waiting (hl : hub.listeners[id]? = some l)
    (es pre post : List (Nat × Action ο τ π ρ)) (places : List Nat) :
    runPlan (run m) id (List.range' pre.length es.length ++ places)
        (hub.withPlan id l (pre ++ waiting (es.map fun e => (e.1 + 1, e.2)) ++ post)) =
      runPlan (run m) id places (hub.withPlan id l (pre ++ waiting es ++ post)) := by
  induction es generalizing pre with
  | nil => rfl
  | cons e es ih =>
    let plan := pre ++ waiting ((e :: es).map fun e => (e.1 + 1, e.2)) ++ post
    have hget : plan[pre.length]? = some (0 + 1, .later (e.1 + 1) e.2) := by
      simp [plan, waiting]
    have hset : plan.set pre.length (0 + 1, .later e.1 e.2) =
        pre ++ [(1, .later e.1 e.2)] ++ waiting (es.map fun e => (e.1 + 1, e.2)) ++ post := by
      simp [plan, waiting]
    have htell (h : Hub σ ο τ π ρ) : run m (.tell []) h = (h, none) := run_eq m _ h
    have hrest := ih (pre ++ [(1, .later e.1 e.2)])
    rw [List.length_append, List.length_singleton] at hrest
    rw [List.length_cons, List.range'_succ, List.cons_append,
      runPlan_cons_none (takeAction_waiting hl hget) (htell _), hset, hrest]
    simp [waiting]

/-- The action whose turn has come runs, and those behind it have run. What is spent when the action
begins is spent when it ends. -/
theorem runPlan_turn (hl : hub.listeners[id]? = some l) (a : Action ο τ π ρ)
    {es spent : List (Nat × Action ο τ π ρ)} (hspent : ∀ e ∈ spent, e.1 = 0) :
    runPlan (run m) id (es.length :: List.range' (es.length + 1) spent.length)
        (hub.withPlan id l (waiting es ++ (1, .later 0 a) :: spent)) =
      run m a (hub.withPlan id l (waiting es ++ (0, .later 0 a) :: spent)) := by
  let hub' := hub.withPlan id l (waiting es ++ (0, .later 0 a) :: spent)
  have hget : (waiting es ++ (1, .later 0 a) :: spent)[es.length]? = some (0 + 1, .later 0 a) := by
    simp [waiting]
  have hset : (waiting es ++ (1, .later 0 a) :: spent).set es.length (0, .later 0 a) =
      waiting es ++ (0, .later 0 a) :: spent := by
    simp [waiting]
  have hrun : run m (.later 0 a) hub' = run m a hub' := run_eq m _ hub'
  have hafter : ∀ i ∈ List.range' (es.length + 1) spent.length, hub'.Spent id i := by
    intro i hi
    obtain ⟨j, -, rfl⟩ := List.mem_range'.mp hi
    refine ⟨_, listeners_withPlan hl _, fun e he => hspent e ?_⟩
    rw [List.getElem?_append_right (by simp [waiting]; omega)] at he
    have hj : es.length + 1 + 1 * j - (waiting es).length = j + 1 := by
      simp [waiting]
      omega
    rw [hj, List.getElem?_cons_succ] at he
    exact List.mem_of_getElem? he
  have htake := takeAction_turn hl hget
  rw [hset] at htake
  have hreach := run_reaches m a hub'
  rcases hr : run m a hub' with ⟨hub'', _ | fault⟩ <;> rw [hr] at hrun hreach
  · rw [runPlan_cons_none htake hrun]
    exact runPlan_of_spent fun i hi => (hafter i hi).reaches hreach
  · exact runPlan_cons_some htake hrun _

/-- A call of a listener takes the actions that its script has for this call, and nothing else. Its
plan holds the calls to come, this call, and those that there were. -/
theorem Scripted.runPlan {b : List (Action ο τ π ρ)} {bs : List (List (Action ο τ π ρ))}
    (h : hub.Scripted id (b :: bs)) :
    ∃ ls, Scripted { hub with listeners := ls } id bs ∧
      runPlan (run m) id (List.range (hub.listener id).plan.length) hub =
        run m (.all b) { hub with listeners := ls } := by
  obtain ⟨l, spent, hl, hplan, hspent⟩ := h
  have hplan' : l.plan = [] ++ waiting ((turns bs).map fun e => (e.1 + 1, e.2)) ++
      ((1, .later 0 (.all b)) :: spent) := by
    rw [hplan, script, turns_cons, waiting_append]
    simp [waiting]
  have hplaces : List.range (hub.listener id).plan.length =
      List.range' 0 (turns bs).length ++ (turns bs).length ::
        List.range' ((turns bs).length + 1) spent.length := by
    have hlen : (hub.listener id).plan.length = (turns bs).length + (spent.length + 1) := by
      rw [Hub.listener, hl, Option.getD_some, hplan']
      simp [waiting]
    rw [hlen, List.range_eq_range', ← List.range'_append_1, List.range'_succ, Nat.zero_add]
  have hwait := runPlan_waiting (m := m) hl (turns bs) [] ((1, .later 0 (.all b)) :: spent)
    ((turns bs).length :: List.range' ((turns bs).length + 1) spent.length)
  rw [← hplan', withPlan_self hl, List.nil_append, List.length_nil, ← hplaces] at hwait
  refine ⟨_, ⟨_, (0, .later 0 (.all b)) :: spent, listeners_withPlan hl _, rfl, ?_⟩,
    hwait.trans (runPlan_turn hl (.all b) hspent)⟩
  simpa using hspent

end Hub

end Typeset.Events
