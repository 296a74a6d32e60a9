import Typeset.Proofs.Registry.Reflection

/-!
# Documents are independent

The documents of a registry share its records, its clock and its channels, but nothing that happens
to one of them shows in another. If the operations on all other documents are left out of a run, and
the operations that stay are shown the times that they were shown before, then the record of the
document and the notices about it are the same, the notices about all documents at once included.

The two runs are compared step by step. An operation that is left out touches neither the record
nor the notices, and one that stays does the same in both runs.

## Main definitions

* `Registry.Operation.isOn`, `Registry.Notice.isAbout`: what has to do with a document
* `Registry.Clock.timesOn`: the times that the operations on a document are shown
* `Registry.noticesAbout`: the notices about a document, with their channels
* `Registry.Alike`: two runs cannot be told apart by a document

## Main results

* `Registry.Alike.leaveOut`, `Registry.Alike.keep`: the steps of the two runs
* `Registry.independent_of_others`: a run without the operations on other documents
-/

namespace Typeset.Registry

open Events (Action Effect Hub Incident emitted)

variable {ρ : Type} {file : String} {op : Operation}

/-! ## What has to do with a document -/

/-- Whether an operation is on a document, alone or with all others. -/
def Operation.isOn (file : String) (op : Operation) : Bool := op.file?.all (· = file)

/-- Whether a notice is about a document, alone or with all others. -/
def Notice.isAbout (file : String) (n : Notice) : Bool := n.file?.all (· = file)

theorem Operation.isOn_iff : op.isOn file = true ↔ ∀ f ∈ op.file?, f = file := by
  cases h : op.file? <;> simp [isOn, h]

theorem Operation.exists_ne_of_not_isOn (h : op.isOn file = false) :
    ∃ f, op.file? = some f ∧ file ≠ f := by
  cases hf : op.file? with
  | none => simp [isOn, hf] at h
  | some f => exact ⟨f, rfl, by simpa [isOn, hf, eq_comm] using h⟩

/-- The operations among actions. -/
def operationsOf (actions : List (Action Operation Topic Notice ρ)) : List Operation :=
  actions.filterMap fun
    | .operate op => some op
    | _ => none

/-- Whether an action stays when the operations on other documents are left out. -/
def isKept (file : String) (a : Action Operation Topic Notice ρ) : Bool :=
  match a with
  | .operate op => op.isOn file
  | _ => true

/-- The times that the operations on a document are shown, where all operations read the clock in
turn. -/
def Clock.timesOn (file : String) : Clock → List Operation → List Float
  | _, [] => []
  | c, op :: ops =>
    (if op.readsClock && op.isOn file then [(c.tick op).1] else []) ++
      (c.tick op).2.timesOn file ops

/-- The notices about a document that were given out, in order, with their channels. -/
def noticesAbout (file : String) (is : List (Incident Topic Notice ρ)) : List (Topic × Notice) :=
  (emitted is).filter fun e => e.2.isAbout file

/-! ## Two runs -/

section Runs

variable {hub hub' : Hub Timed Operation Topic Notice ρ}

/-- Two runs cannot be told apart by a document: they have the same record of it, and the same
notices about it were given out. In neither of them a listener asks for an operation. -/
structure Alike (file : String) (hub hub' : Hub Timed Operation Topic Notice ρ) : Prop where
  confined : hub.Confined fun _ => False
  confined' : hub'.Confined fun _ => False
  record : hub'.state.registry.find? file = hub.state.registry.find? file
  notices : noticesAbout file hub'.history = noticesAbout file hub.history

theorem noticesAbout_of_delivered {ns : List Notice} (h : Delivered ns hub hub') (file : String) :
    noticesAbout file hub'.history = noticesAbout file hub.history ++
      (ns.map fun n => (n.topic, n)).filter fun e => e.2.isAbout file := by
  obtain ⟨is, hh, he, -⟩ := h.history
  rw [noticesAbout, hh, Events.emitted_append, he, List.filter_append, ← noticesAbout]

namespace Alike

/-- An operation on another document may be left out. None of its notices is about the document. -/
theorem leaveOut (h : Alike file hub hub') (hop : op ≠ .dispose) (hon : op.isOn file = false) :
    Alike file (hub.run machine (.operate op)).1 hub' := by
  obtain ⟨hstate, hdelivered⟩ := operate_delivered_tick hop h.confined
  obtain ⟨f, hf, hne⟩ := Operation.exists_ne_of_not_isOn hon
  refine ⟨hdelivered.confined h.confined, h.confined', ?_, ?_⟩
  · rw [hstate, h.record]
    exact (find?_apply_of_ne _ _ hf hne).symm
  · rw [noticesAbout_of_delivered hdelivered, List.filter_eq_nil_iff.mpr, List.append_nil,
      h.notices]
    intro e he
    obtain ⟨n, hn, rfl⟩ := List.mem_map.mp he
    simp [Notice.isAbout, file?_of_mem_notices hn, hf, hne.symm]

/-- An operation on the document does the same in both runs, if it is shown the same time. -/
theorem keep (h : Alike file hub hub') (hop : op ≠ .dispose) (hon : op.isOn file = true)
    (htime : op.readsClock = true →
      (hub'.state.clock.tick op).1 = (hub.state.clock.tick op).1) :
    Alike file (hub.run machine (.operate op)).1 (hub'.run machine (.operate op)).1 := by
  obtain ⟨hstate, hdelivered⟩ := operate_delivered_tick hop h.confined
  obtain ⟨hstate', hdelivered'⟩ := operate_delivered_tick hop h.confined'
  have hsame : op.apply hub'.state.registry (hub'.state.clock.tick op).1 =
      op.apply hub'.state.registry (hub.state.clock.tick op).1 := by
    cases hr : op.readsClock with
    | true => rw [htime hr]
    | false => exact apply_of_not_readsClock _ hr _ _
  obtain ⟨hrecord, hnotices⟩ := apply_congr (hub.state.clock.tick op).1
    (Operation.isOn_iff.mp hon) h.record
  refine ⟨hdelivered.confined h.confined, hdelivered'.confined h.confined', ?_, ?_⟩
  · rw [hstate, hstate', hsame]
    exact hrecord
  · rw [noticesAbout_of_delivered hdelivered, noticesAbout_of_delivered hdelivered', hsame,
      hnotices, h.notices]

/-- What is no operation is done in both runs. -/
theorem tacit (h : Alike file hub hub') {a : Action Operation Topic Notice ρ}
    (ha : a.Confined fun _ => False) :
    Alike file (hub.run machine a).1 (hub'.run machine a).1 := by
  have hquiet := Hub.run_undisturbed machine ha h.confined
  have hquiet' := Hub.run_undisturbed machine ha h.confined'
  refine ⟨hquiet.confined h.confined, hquiet'.confined h.confined', ?_, ?_⟩
  · rw [hquiet.state, hquiet'.state, h.record]
  · rw [noticesAbout_of_delivered (.of_undisturbed hquiet),
      noticesAbout_of_delivered (.of_undisturbed hquiet'), h.notices]

end Alike

end Runs

/-! ## Whole runs -/

theorem operationsOf_operate_cons (op : Operation)
    (actions : List (Action Operation Topic Notice ρ)) :
    operationsOf (.operate op :: actions) = op :: operationsOf actions := rfl

/-- Who may not operate the registry asks for no operation. -/
theorem operationsOf_tacit_cons {a : Action Operation Topic Notice ρ}
    (ha : a.Confined fun _ => False) (actions : List (Action Operation Topic Notice ρ))
    (file : String) :
    operationsOf (a :: actions) = operationsOf actions ∧ isKept file a = true := by
  cases a with
  | operate op => exact ha.elim
  | _ => exact ⟨rfl, rfl⟩

/-- The clock of the shorter run shows what the operations that stay were shown. The next time ahead
is the one that the operation was shown. -/
theorem Alike.runEach {actions : List (Action Operation Topic Notice ρ)}
    (hactions : ∀ a ∈ actions, Outward a) {hub hub' : Hub Timed Operation Topic Notice ρ}
    (h : Alike file hub hub')
    (hclock : hub'.state.clock.ahead = hub.state.clock.timesOn file (operationsOf actions)) :
    Alike file (hub.runEach machine actions)
      (hub'.runEach machine (actions.filter (isKept file))) := by
  induction actions generalizing hub hub' with
  | nil => simpa [Hub.runEach] using h
  | cons a actions ih =>
    obtain ⟨ha, hrest⟩ := List.forall_mem_cons.mp hactions
    rw [Hub.runEach_cons]
    cases ha with
    | @operate op hop =>
      rw [operationsOf_operate_cons, Clock.timesOn] at hclock
      have hnext : (hub.run machine (.operate op)).1.state.clock = (hub.state.clock.tick op).2 := by
        rw [(operate_delivered_tick hop h.confined).1]
      cases hon : op.isOn file with
      | false =>
        rw [List.filter_cons_of_neg (by simp [isKept, hon])]
        refine ih hrest (h.leaveOut hop hon) ?_
        rw [hclock, hnext, hon, Bool.and_false]
        rfl
      | true =>
        rw [List.filter_cons_of_pos (by simp [isKept, hon]), Hub.runEach_cons]
        have hnext' : (hub'.run machine (.operate op)).1.state.clock =
            (hub'.state.clock.tick op).2 := by
          rw [(operate_delivered_tick hop h.confined').1]
        cases hr : op.readsClock with
        | true =>
          have htick : hub'.state.clock.tick op = ((hub.state.clock.tick op).1,
              ⟨(hub.state.clock.tick op).2.timesOn file (operationsOf actions),
                (hub.state.clock.tick op).1⟩) := by
            rw [hr, hon] at hclock
            rw [Clock.tick, if_pos hr, Clock.read, hclock]
            rfl
          refine ih hrest (h.keep hop hon fun _ => by rw [htick]) ?_
          rw [hnext, hnext', htick]
        | false =>
          refine ih hrest (h.keep hop hon fun h => by rw [hr] at h; cases h) ?_
          rw [hr] at hclock
          rw [hnext, hnext', Clock.tick, if_neg (by simp [hr]), hclock]
          rfl
    | tacit ha =>
      obtain ⟨hops, hkept⟩ := operationsOf_tacit_cons ha actions file
      rw [List.filter_cons_of_pos hkept, Hub.runEach_cons]
      refine ih hrest (h.tacit ha) ?_
      rw [(Hub.run_undisturbed machine ha h.confined).state,
        (Hub.run_undisturbed machine ha h.confined').state, hclock, hops]

/-- **Documents are independent.** From a run on a fresh registry, whose listeners do not operate
it, all operations on documents other than `file` are left out, and the operations that stay are
shown the times that they were shown in the whole run. Then the registry has the same record of
`file`, tells the same about it, and has given out the same notices about it. -/
theorem independent_of_others (clock : Clock)
    (actions : List (Action Operation Topic Notice ρ)) (hactions : ∀ a ∈ actions, Outward a)
    (file : String) :
    let times : Clock := { ahead := clock.timesOn file (operationsOf actions) }
    let hub := Hub.runEach machine actions (fresh clock)
    let hub' := Hub.runEach machine (actions.filter (isKept file)) (fresh times)
    hub'.state.registry.find? file = hub.state.registry.find? file ∧
      hub'.state.registry.status file = hub.state.registry.status file ∧
      noticesAbout file hub'.history = noticesAbout file hub.history := by
  intro times hub hub'
  have hfresh : Alike file (fresh clock : Hub Timed Operation Topic Notice ρ) (fresh times) :=
    ⟨by simp [Hub.Confined, fresh], by simp [Hub.Confined, fresh], rfl, rfl⟩
  have halike : Alike file hub hub' := hfresh.runEach hactions rfl
  refine ⟨halike.record, ?_, halike.notices⟩
  rw [Registry.status, halike.record, Registry.status]

/-- Between the start and the end of a build another one starts and fails, and is forgotten. The
time of the build is that between its own start and its own end. -/
theorem independent_of_failing_build :
    let actions : List (Action Operation Topic Notice Unit) :=
      [.listen "follower" .statusChanged (fun _ => []) [(1, .fail ⟨"RuntimeError", "boom"⟩)],
        .operate (.start "a.tex"), .operate (.start "b.tex"),
        .operate (.fail "b.tex" "Exit code 1" ""), .operate (.finish "a.tex" "" none),
        .operate (.reset (some "b.tex"))]
    let clock : Clock := ⟨[1, 2, 3, 5], 0⟩
    let times : Clock := { ahead := clock.timesOn "a.tex" (operationsOf actions) }
    let hub := Hub.runEach machine actions (fresh clock)
    let hub' := Hub.runEach machine (actions.filter (isKept "a.tex")) (fresh times)
    (∀ a ∈ actions, Outward a) ∧ times.ahead = [1, 5] ∧
      operationsOf (actions.filter (isKept "a.tex")) = [.start "a.tex", .finish "a.tex" "" none] ∧
      hub'.state.registry.find? "a.tex" = hub.state.registry.find? "a.tex" ∧
      (hub.state.registry.status "a.tex").status = .success ∧
      (noticesAbout "a.tex" hub.history).length = 4 ∧
      noticesAbout "a.tex" hub'.history = noticesAbout "a.tex" hub.history := by
  intro actions clock times hub hub'
  have hactions : ∀ a ∈ actions, Outward a := by
    simp only [actions, List.forall_mem_cons]
    refine ⟨.tacit (by simp [Action.Confined, Action.PlanConfined]), .operate (by simp),
      .operate (by simp), .operate (by simp), .operate (by simp), .operate (by simp), by simp⟩
  obtain ⟨hrecord, -, hnotices⟩ := independent_of_others clock actions hactions "a.tex"
  exact ⟨hactions, by rfl, by rfl, hrecord, by decide +kernel, by decide +kernel, hnotices⟩

end Typeset.Registry
