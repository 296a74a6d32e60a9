import Mathlib.Logic.Function.Basic
import Typeset.Proofs.Events.Hearing
import Typeset.Proofs.Registry.Change

/-!
# A reflection of the registry

Who takes in the status notices of a registry from the beginning on knows at any time which
documents the registry tracks, with their statuses and errors: no change goes unnoticed. Other
listeners may fail or come and go, as long as they do not operate the registry themselves.

The statement has two halves. The notices of an operation, taken in, turn the reflection of the
registry before into the one after; and a listener whose handle stays live hears what is emitted on
its channel.

## Main definitions

* `Registry.Reflection`: the statuses and errors of documents
* `Registry.Reflection.hear`: a reflection after a notice
* `Registry.reflection`: what the registry tells about the documents that it tracks
* `Registry.Operation.Announces`: the notices that an operation gives out

## Main results

* `Registry.foldl_hear_notices`: the notices of an operation carry the reflection over
* `Registry.reflection_of_received`: a listener keeps a true reflection
-/

namespace Typeset

open Events (Action Board Effect Hub Repeats emitted received)

namespace Registry

/-- Documents with their statuses and errors. -/
abbrev Reflection := String → Option (BuildStatus × Option String)

namespace Reflection

/-- No documents. -/
def empty : Reflection := fun _ => none

/-- The reflection after a notice: documents that become idle are forgotten, and only notices of
statuses count. -/
def hear (r : Reflection) : Notice → Reflection
  | .statusChanged _ none _ => empty
  | .statusChanged .idle (some file) _ => Function.update r file none
  | .statusChanged status (some file) error => Function.update r file (some (status, error))
  | _ => r

theorem hear_of_topic_ne (r : Reflection) {n : Notice} (h : n.topic ≠ .statusChanged) :
    r.hear n = r := by
  cases n with
  | statusChanged => exact absurd rfl h
  | _ => rfl

theorem hear_hear (r : Reflection) (n : Notice) : (r.hear n).hear n = r.hear n := by
  cases n with
  | statusChanged status file error =>
    cases file with
    | none => rfl
    | some file => cases status <;> exact Function.update_idem _ _ _
  | _ => rfl

end Reflection

/-- What the registry tells about each document that it tracks. -/
def reflection (r : Registry) : Reflection := fun file =>
  (r.find? file).map fun _ => ((r.status file).status, (r.status file).error)

theorem reflection_eq (r : Registry) (file : String) :
    r.reflection file = (r.find? file).map fun x => (x.status, x.error?) := by
  unfold reflection status
  cases r.find? file <;> rfl

/-! ## The notices of an operation -/

theorem reflection_put (r : Registry) (file : String) (x : Record) :
    (r.put file x).reflection = Function.update r.reflection file (some (x.status, x.error?)) := by
  funext other
  by_cases h : other = file
  · subst h
    rw [reflection_eq, find?_put_self, Function.update_self, Option.map_some]
  · rw [reflection_eq, find?_put_of_ne r h, Function.update_of_ne h, reflection_eq]

theorem reflection_erase (r : Registry) (file : String) :
    (r.erase file).reflection = Function.update r.reflection file none := by
  funext other
  by_cases h : other = file
  · subst h
    rw [reflection_eq, find?_erase_self, Function.update_self, Option.map_none]
  · rw [reflection_eq, find?_erase_of_ne r h, Function.update_of_ne h, reflection_eq]

/-- Who takes in the notices of an operation has the reflection of the registry after it. -/
theorem foldl_hear_notices (r : Registry) (now : Float) {op : Operation} (hop : op ≠ .dispose) :
    (op.apply r now).2.foldl Reflection.hear r.reflection = (op.apply r now).1.reflection := by
  cases op with
  | start file => exact (reflection_put r file (.building now)).symm
  | finish file output given => exact (reflection_put r file (.success (r.start? file) now)).symm
  | fail file error output => exact (reflection_put r file (.error (r.start? file) now error)).symm
  | reset file =>
    cases file with
    | none => rfl
    | some file => exact (reflection_erase r file).symm
  | publish file ds => rfl
  | dispose => exact absurd rfl hop

/-- What an operation emits: its special notice first, and then one of the status. -/
def Operation.Announces : Operation → List (Topic × Notice) → Prop
  | .start file, sent =>
    sent = [(.started, .started file), (.statusChanged, .statusChanged .building (some file) none)]
  | .finish file output given, sent => ∃ elapsed, (∀ s, given = some s → elapsed = some s) ∧
    sent = [(.finished, .finished file output elapsed),
      (.statusChanged, .statusChanged .success (some file) none)]
  | .fail file error output, sent =>
    sent = [(.failed, .failed file error output),
      (.statusChanged, .statusChanged .error (some file) (some error))]
  | .reset file, sent => sent = [(.statusChanged, .statusChanged .idle file none)]
  | .publish file ds, sent => sent = [(.diagnosticsUpdated, .diagnosticsUpdated file ds)]
  | .dispose, sent => sent = []

theorem announces_notices (r : Registry) (now : Float) (op : Operation) :
    op.Announces ((op.apply r now).2.map fun n => (n.topic, n)) := by
  cases op with
  | finish file output given => exact ⟨_, fun s hs => by rw [hs]; rfl, rfl⟩
  | reset file => cases file <;> rfl
  | _ => rfl

/-! ## Operations on a hub -/

variable {ρ : Type}

/-- A registry with nothing on record and nobody who follows it. -/
def fresh (clock : Clock) : Hub Timed Operation Topic Notice ρ := { state := { clock := clock } }

/-- Between two moments the notices `ns` were emitted, and the listeners heard what was emitted on
their channels, as long as their handles stayed live. -/
structure Delivered (ns : List Notice) (hub hub' : Hub Timed Operation Topic Notice ρ) : Prop where
  turns : Board.Turns hub.board hub'.board
  confined : hub.Confined (fun _ => False) → hub'.Confined (fun _ => False)
  history : ∃ is, hub'.history = hub.history ++ is ∧ emitted is = ns.map (fun n => (n.topic, n)) ∧
    ∀ h channel id, hub.board.Accounted → hub.board.Holds h channel id →
      hub'.board.isDisposed h = false → Repeats (fun n => n.topic = channel) ns (received id is)

namespace Delivered

variable {hub hub₁ hub₂ : Hub Timed Operation Topic Notice ρ} {ns ns₁ ns₂ : List Notice}

theorem of_undisturbed (h : Hub.Undisturbed [] (fun _ => []) hub hub₁) : Delivered [] hub hub₁ where
  turns := h.turns
  confined := h.confined
  history := by
    obtain ⟨is, hh, he, hr⟩ := h.history
    exact ⟨is, hh, he, fun _ _ id _ _ _ => (hr id).symm ▸ .nil⟩

theorem trans (h₁ : Delivered ns₁ hub hub₁) (h₂ : Delivered ns₂ hub₁ hub₂) :
    Delivered (ns₁ ++ ns₂) hub hub₂ where
  turns := h₁.turns.trans h₂.turns
  confined h := h₂.confined (h₁.confined h)
  history := by
    obtain ⟨is₁, hh₁, he₁, hr₁⟩ := h₁.history
    obtain ⟨is₂, hh₂, he₂, hr₂⟩ := h₂.history
    have hhistory : hub₂.history = hub.history ++ (is₁ ++ is₂) := by
      rw [hh₂, hh₁, List.append_assoc]
    refine ⟨is₁ ++ is₂, hhistory, ?_, fun h channel id hacc hh hlive => ?_⟩
    · rw [Events.emitted_append, he₁, he₂, List.map_append]
    · have hh₁ := hh.of_live h₁.turns h₂.turns hlive
      rw [Events.received_append]
      exact (hr₁ h channel id hacc hh hh₁.isDisposed).append
        (hr₂ h channel id (hacc.turns h₁.turns) hh₁ hlive)

end Delivered

/-- Notices go out one after another, and the state stays as it is meanwhile. -/
theorem emitAll_delivered (ns : List Notice) {hub : Hub Timed Operation Topic Notice ρ}
    (hhub : hub.Confined fun _ => False) :
    let hub' := (ns.map fun n => Effect.emit n.topic n).foldl (Hub.apply (Hub.run machine)) hub
    hub'.state = hub.state ∧ Delivered ns hub hub' := by
  induction ns generalizing hub with
  | nil => exact ⟨rfl, .of_undisturbed (.refl hub)⟩
  | cons n ns ih =>
    have hemit := Hub.emit_undisturbed (fun a hub ha hh => Hub.run_undisturbed machine ha hh)
      n.topic n hhub
    have hone : Delivered [n] hub (hub.emit (Hub.run machine) n.topic n) :=
      { turns := hemit.turns
        confined := hemit.confined
        history := by
          obtain ⟨is, hh, he, hr⟩ := hemit.history
          refine ⟨is, hh, he, fun h channel id hacc hh _ => ?_⟩
          rw [hr, ← List.append_nil (List.replicate _ _)]
          refine .cons (fun hc => ?_) .nil
          exact hc ▸ List.count_pos_iff.mpr (hacc.mem_listeners hh) }
    obtain ⟨hstate, hrest⟩ := ih (hemit.confined hhub)
    exact ⟨hstate.trans hemit.state, hone.trans hrest⟩

theorem perform_eq (op : Operation) (t : Timed) (hop : op ≠ .dispose) :
    ∃ now, ((machine.perform op t).1.registry, (machine.perform op t).2) =
      ((op.apply t.registry now).1,
        (op.apply t.registry now).2.map fun n => Effect.emit n.topic n) := by
  have hperform : machine.perform op t = _ := perform_eq_tick t hop
  exact ⟨(t.clock.tick op).1, by rw [hperform]⟩

/-- An operation changes the registry at the time that it is shown, and then gives out its
notices. -/
theorem operate_delivered_tick {op : Operation} (hop : op ≠ .dispose)
    {hub : Hub Timed Operation Topic Notice ρ} (hhub : hub.Confined fun _ => False) :
    let change := op.apply hub.state.registry (hub.state.clock.tick op).1
    let hub' := (hub.run machine (.operate op)).1
    hub'.state = ⟨change.1, (hub.state.clock.tick op).2⟩ ∧ Delivered change.2 hub hub' := by
  intro change hub'
  have hperform : machine.perform op hub.state = _ := perform_eq_tick hub.state hop
  have hmoved : Delivered [] hub { hub with state := (machine.perform op hub.state).1 } :=
    ⟨.refl, fun h => h, [], (List.append_nil _).symm, rfl, fun _ _ _ _ _ _ => .nil⟩
  obtain ⟨hstate, hnotices⟩ := emitAll_delivered change.2 (hmoved.confined hhub)
  have hhub' : hub' = (change.2.map fun n => Effect.emit n.topic n).foldl
      (Hub.apply (Hub.run machine)) { hub with state := (machine.perform op hub.state).1 } := by
    simp only [hub', change]
    rw [Hub.run_eq, Hub.step, hperform]
  rw [hhub']
  exact ⟨by rw [hstate, hperform], hmoved.trans hnotices⟩

/-- An operation changes the registry and then gives out its notices. -/
theorem operate_delivered {op : Operation} (hop : op ≠ .dispose)
    {hub : Hub Timed Operation Topic Notice ρ} (hhub : hub.Confined fun _ => False) :
    ∃ now, let hub' := (hub.run machine (.operate op)).1
      hub'.state.registry = (op.apply hub.state.registry now).1 ∧
      Delivered (op.apply hub.state.registry now).2 hub hub' := by
  obtain ⟨hstate, hdelivered⟩ := operate_delivered_tick hop hhub
  exact ⟨_, congrArg Timed.registry hstate, hdelivered⟩

/-! ## True reflections -/

/-- Between two moments notices were delivered that carry the reflection over. -/
def Reflected (hub hub' : Hub Timed Operation Topic Notice ρ) : Prop :=
  ∃ ns, Delivered ns hub hub' ∧
    ns.foldl Reflection.hear hub.state.registry.reflection = hub'.state.registry.reflection

/-- What the owner of a registry may do whose listeners do not operate it: an operation, or anything
without operations. -/
inductive Outward : Action Operation Topic Notice ρ → Prop where
  | operate {op : Operation} (hop : op ≠ .dispose) : Outward (.operate op)
  | tacit {a : Action Operation Topic Notice ρ} (ha : a.Confined fun _ => False) : Outward a

theorem Outward.reflected {a : Action Operation Topic Notice ρ} (ha : Outward a)
    {hub : Hub Timed Operation Topic Notice ρ} (hhub : hub.Confined fun _ => False) :
    Reflected hub (hub.run machine a).1 := by
  cases ha with
  | @operate op hop =>
    obtain ⟨now, hregistry, hdelivered⟩ := operate_delivered hop hhub
    exact ⟨_, hdelivered, by rw [hregistry]; exact foldl_hear_notices _ now hop⟩
  | tacit ha =>
    have hquiet := Hub.run_undisturbed machine ha hhub
    exact ⟨[], .of_undisturbed hquiet, by rw [hquiet.state]; rfl⟩

theorem runEach_reflected {actions : List (Action Operation Topic Notice ρ)}
    (hactions : ∀ a ∈ actions, Outward a) {hub : Hub Timed Operation Topic Notice ρ}
    (hhub : hub.Confined fun _ => False) : Reflected hub (hub.runEach machine actions) := by
  unfold Hub.runEach
  refine List.foldlRecOn (motive := Reflected hub) _ _
    ⟨[], .of_undisturbed (.refl hub), rfl⟩ fun h hh a ha => ?_
  obtain ⟨ns, hns, hfold⟩ := hh
  obtain ⟨ns', hns', hfold'⟩ := (hactions a ha).reflected (hns.confined hhub)
  exact ⟨ns ++ ns', hns.trans hns', by rw [List.foldl_append, hfold, hfold']⟩

/-- A run without operations leaves everything as it was but for the listeners. -/
theorem fresh_undisturbed (clock : Clock) {before : List (Action Operation Topic Notice ρ)}
    (hbefore : ∀ a ∈ before, a.Confined fun _ => False) :
    Hub.Undisturbed [] (fun _ => []) (fresh clock) (Hub.runEach machine before (fresh clock)) :=
  Hub.governs_undisturbed.runEach (fun _ _ _ _ hop => hop.elim) hbefore
    (by simp [Hub.Confined, fresh])

/-- Somebody follows the statuses of a fresh registry from before its first operation on, and takes
in what he hears. The other listeners may do anything but operate the registry. After every
operation, as long as his handle is live, he has a true reflection of the registry; and every
operation gives out its special notice and then one of the status. -/
theorem reflection_of_received (clock : Clock)
    (before after : List (Action Operation Topic Notice ρ)) (name : String)
    (report : Notice → List ρ) (plan : List (Nat × Action Operation Topic Notice ρ))
    (hbefore : ∀ a ∈ before, a.Confined fun _ => False)
    (hplan : Action.PlanConfined (fun _ => False) plan) (hafter : ∀ a ∈ after, Outward a) :
    let hub₁ := Hub.runEach machine before (fresh clock)
    let hub := hub₁.runEach machine (.listen name .statusChanged report plan :: after)
    (hub.board.isDisposed hub₁.board.handles.length = false →
      (received hub₁.listeners.length hub.history).foldl Reflection.hear Reflection.empty =
        hub.state.registry.reflection) ∧
      ∀ op, op ≠ .dispose → ∃ is, (hub.run machine (.operate op)).1.history = hub.history ++ is ∧
        op.Announces (emitted is) := by
  intro hub₁ hub
  -- before: listeners come and go, but there is nothing to hear yet
  have hquiet : Hub.Undisturbed [] (fun _ => []) (fresh clock) hub₁ :=
    fresh_undisturbed clock hbefore
  have hconfined : hub₁.Confined fun _ => False := hquiet.confined (by simp [Hub.Confined, fresh])
  have hacc : hub₁.board.Accounted := Board.accounted_empty.turns hquiet.turns
  -- the follower comes
  let hub₂ := (hub₁.run machine (.listen name .statusChanged report plan)).1
  have hlisten : Hub.Undisturbed [] (fun _ => []) hub₁ hub₂ :=
    Hub.run_undisturbed machine (by rwa [Action.Confined]) hconfined
  have hholds := Hub.holds_listen machine hub₁ name .statusChanged report plan
  -- and the registry is operated
  obtain ⟨ns, hns, hfold⟩ := runEach_reflected hafter (hlisten.confined hconfined)
  rw [← Hub.runEach_cons] at hns hfold
  refine ⟨fun hlive => ?_, fun op hop => ?_⟩
  · obtain ⟨is, hh, -, hr⟩ := hns.history
    obtain ⟨is₂, hh₂, -, hr₂⟩ := (hquiet.trans hlisten).history
    have hreceived : received hub₁.listeners.length hub.history =
        received hub₁.listeners.length is := by
      rw [hh, hh₂, Events.received_append, Events.received_append, hr₂]
      rfl
    have hreflection : hub₂.state.registry.reflection = Reflection.empty := by
      rw [hlisten.state, hquiet.state]
      rfl
    have hrepeats := hr _ _ _ (hacc.turns hlisten.turns) hholds hlive
    rw [hreceived, hrepeats.foldl_eq _ (fun r n _ => r.hear_hear n)
      (fun r n hn => r.hear_of_topic_ne hn), ← hreflection]
    exact hfold
  · obtain ⟨now, -, hdelivered⟩ := operate_delivered hop (hns.confined (hlisten.confined hconfined))
    obtain ⟨is, hh, he, -⟩ := hdelivered.history
    exact ⟨is, hh, he ▸ announces_notices _ now op⟩

/-- The follower stands between a listener that fails and one that sends it away. -/
theorem reflection_among_failing_listeners :
    let before : List (Action Operation Topic Notice Unit) :=
      [.listen "first" .statusChanged (fun _ => []) [(2, .fail ⟨"RuntimeError", "boom"⟩)]]
    let after : List (Action Operation Topic Notice Unit) :=
      [.listen "last" .finished (fun _ => []) [(1, .dispose "first")],
        .operate (.start "a.tex"), .operate (.fail "b.tex" "Exit code 1" ""),
        .operate (.finish "a.tex" "" none), .operate (.reset (some "b.tex"))]
    let hub₁ := Hub.runEach machine before (fresh ⟨[], 0⟩)
    let hub := hub₁.runEach machine (.listen "follower" .statusChanged (fun _ => []) [] :: after)
    ((∀ a ∈ before, a.Confined fun _ => False) ∧
      Action.PlanConfined (fun _ => False) ([] : List (Nat × Action Operation Topic Notice Unit)) ∧
      (∀ a ∈ after, Outward a) ∧ hub.board.isDisposed hub₁.board.handles.length = false) ∧
    (received hub₁.listeners.length hub.history).foldl Reflection.hear Reflection.empty =
      hub.state.registry.reflection ∧
    hub.state.registry.reflection "a.tex" = some (.success, none) := by
  intro before after hub₁ hub
  have hbefore : ∀ a ∈ before, a.Confined fun _ => False := by
    simp [before, Action.Confined, Action.PlanConfined]
  have hafter : ∀ a ∈ after, Outward a := by
    simp only [after, List.forall_mem_cons]
    refine ⟨.tacit (by simp [Action.Confined, Action.PlanConfined]), .operate (by simp),
      .operate (by simp), .operate (by simp), .operate (by simp), by simp⟩
  have hlive : hub.board.isDisposed hub₁.board.handles.length = false := by decide +kernel
  have htrue := (reflection_of_received ⟨[], 0⟩ before after "follower" (fun _ => []) [] hbefore
    trivial hafter).1 hlive
  exact ⟨⟨hbefore, trivial, hafter, hlive⟩, htrue, by decide +kernel⟩

end Registry

end Typeset
