import Typeset.Proofs.Events.Confined
import Typeset.Proofs.Events.Move

/-!
# What listeners hear

A listener hears what it is called with. If the listeners ask for no operation while they are
called, an emission is all that goes on until it ends: everybody who stands on its channel at the
beginning hears the payload once for each time that he stands there, and nobody hears anything else.

A listener that stands on a channel several times hears the same thing several times in a row. What
it hears then repeats what was emitted.

## Main definitions

* `Events.received`: what a listener heard
* `Events.emitted`: what was emitted
* `Events.Repeats`: a list in which the entries of another are repeated
* `Events.Hub.Undisturbed`: no operation was asked for between two moments

## Main results

* `Events.Repeats.foldl_eq`: repetitions do not matter to what takes everything in only once
* `Events.Hub.emit_undisturbed`: an emission to listeners that ask for no operation
-/

namespace Typeset.Events

variable {σ ο τ π ρ : Type}

/-! ## Hearing and emitting -/

namespace Incident

/-- What a listener hears in an incident. -/
def heardBy? (id : ListenerId) : Incident τ π ρ → Option π
  | called _ j payload => if j = id then some payload else none
  | _ => none

/-- The payload whose emission begins with an incident, and its channel. -/
def emission (i : Incident τ π ρ) : Option (τ × π) :=
  match i with
  | begun _ channel payload _ => some (channel, payload)
  | _ => none

end Incident

/-- What a listener heard, in order. -/
def received (id : ListenerId) (is : List (Incident τ π ρ)) : List π :=
  is.filterMap (Incident.heardBy? id)

/-- What was emitted on which channels, in the order in which the emissions began. -/
def emitted (is : List (Incident τ π ρ)) : List (τ × π) := is.filterMap Incident.emission

@[simp] theorem received_append (id : ListenerId) (is js : List (Incident τ π ρ)) :
    received id (is ++ js) = received id is ++ received id js := List.filterMap_append

@[simp] theorem emitted_append (is js : List (Incident τ π ρ)) :
    emitted (is ++ js) = emitted is ++ emitted js := List.filterMap_append

theorem received_called (id : ListenerId) (n : Nat) (j : ListenerId) (payload : π) :
    received id [(.called n j payload : Incident τ π ρ)] = if j = id then [payload] else [] := by
  by_cases h : j = id <;> simp [received, Incident.heardBy?, h]

/-- Reports are neither heard nor emitted. -/
theorem received_reports (id : ListenerId) (rs : List ρ) :
    received id (rs.map .report : List (Incident τ π ρ)) = [] := by
  simp [received, Incident.heardBy?]

theorem emitted_reports (rs : List ρ) : emitted (rs.map .report : List (Incident τ π ρ)) = [] := by
  simp [emitted, Incident.emission]

/-! ## Repetitions -/

/-- The second list has the entries of the first in order, each any number of times in a row, and at
least once if it is one of `Q`. -/
inductive Repeats {α : Type} (Q : α → Prop) : List α → List α → Prop where
  | nil : Repeats Q [] []
  | cons {x : α} {xs ys : List α} {k : Nat} (hk : Q x → 0 < k) (h : Repeats Q xs ys) :
    Repeats Q (x :: xs) (List.replicate k x ++ ys)

namespace Repeats

variable {α β : Type} {Q : α → Prop} {xs xs' ys ys' : List α}

theorem append (h : Repeats Q xs ys) (h' : Repeats Q xs' ys') :
    Repeats Q (xs ++ xs') (ys ++ ys') := by
  induction h with
  | nil => exact h'
  | cons hk _ ih =>
    rw [List.append_assoc]
    exact .cons hk ih

theorem eq_nil (h : Repeats Q [] ys) : ys = [] := by
  cases h
  rfl

/-- The first entry comes once more. -/
theorem again {x : α} (h : Repeats Q (x :: xs) ys) : Repeats Q (x :: xs) (x :: ys) := by
  cases h with
  | @cons _ _ ys k _ h => exact .cons (k := k + 1) (fun _ => Nat.succ_pos k) h

/-- The last entry stays the last. -/
theorem getLast? (hQ : ∀ x, Q x) (h : Repeats Q xs ys) : ys.getLast? = xs.getLast? := by
  induction h with
  | nil => rfl
  | @cons x xs ys k hk _ ih =>
    have hpos : k ≠ 0 := Nat.ne_of_gt (hk (hQ x))
    rw [List.getLast?_append, ih, List.getLast?_cons, List.getLast?_replicate, if_neg hpos]
    cases xs.getLast? <;> rfl

theorem foldl_replicate_of_fixed {f : β → α → β} {b : β} {x : α} (h : f b x = b) (k : Nat) :
    (List.replicate k x).foldl f b = b := by
  induction k with
  | zero => rfl
  | succ k ih => rw [List.replicate_succ, List.foldl_cons, h, ih]

/-- What takes the entries of `Q` in only once, and the other ones not at all, does not see the
repetitions. -/
theorem foldl_eq (h : Repeats Q xs ys) (f : β → α → β) (hQ : ∀ b x, Q x → f (f b x) x = f b x)
    (hother : ∀ b x, ¬ Q x → f b x = b) (b : β) : ys.foldl f b = xs.foldl f b := by
  induction h generalizing b with
  | nil => rfl
  | @cons x xs ys k hk _ ih =>
    rw [List.foldl_append, List.foldl_cons, ih]
    congr 1
    by_cases hx : Q x
    · obtain ⟨k, rfl⟩ := Nat.exists_eq_add_one_of_ne_zero (Nat.ne_of_gt (hk hx))
      rw [List.replicate_succ, List.foldl_cons]
      exact foldl_replicate_of_fixed (hQ b x hx) k
    · rw [hother b x hx]
      exact foldl_replicate_of_fixed (hother b x hx) k

end Repeats

namespace Hub

variable [DecidableEq τ]

/-! ## Nobody asks for an operation -/

/-- Between two moments nobody asked for an operation; meanwhile the payloads `sent` were emitted,
and the listeners heard what `heard` tells. -/
structure Undisturbed (sent : List (τ × π)) (heard : ListenerId → List π)
    (hub hub' : Hub σ ο τ π ρ) : Prop where
  state : hub'.state = hub.state
  turns : Board.Turns hub.board hub'.board
  confined : hub.Confined (fun _ => False) → hub'.Confined (fun _ => False)
  history : ∃ is, hub'.history = hub.history ++ is ∧ emitted is = sent ∧
    ∀ id, received id is = heard id

namespace Undisturbed

variable {hub hub₁ hub₂ : Hub σ ο τ π ρ} {sent sent₁ sent₂ : List (τ × π)}
  {heard heard₁ heard₂ : ListenerId → List π}

theorem refl (hub : Hub σ ο τ π ρ) : Undisturbed [] (fun _ => []) hub hub where
  state := rfl
  turns := .refl
  confined h := h
  history := ⟨[], (List.append_nil _).symm, rfl, fun _ => rfl⟩

theorem trans (h₁ : Undisturbed sent₁ heard₁ hub hub₁) (h₂ : Undisturbed sent₂ heard₂ hub₁ hub₂) :
    Undisturbed (sent₁ ++ sent₂) (fun id => heard₁ id ++ heard₂ id) hub hub₂ where
  state := h₂.state.trans h₁.state
  turns := h₁.turns.trans h₂.turns
  confined h := h₂.confined (h₁.confined h)
  history := by
    obtain ⟨is₁, hh₁, he₁, hr₁⟩ := h₁.history
    obtain ⟨is₂, hh₂, he₂, hr₂⟩ := h₂.history
    refine ⟨is₁ ++ is₂, by rw [hh₂, hh₁, List.append_assoc], ?_, fun id => ?_⟩
    · rw [emitted_append, he₁, he₂]
    · rw [received_append, hr₁, hr₂]

theorem congr (h : Undisturbed sent₁ heard₁ hub hub₁) (hsent : sent₁ = sent₂)
    (hheard : ∀ id, heard₁ id = heard₂ id) : Undisturbed sent₂ heard₂ hub hub₁ := by
  obtain rfl : heard₁ = heard₂ := funext hheard
  exact hsent ▸ h

/-- An emission begins. -/
theorem begun (hub : Hub σ ο τ π ρ) (channel : τ) (payload : π) :
    Undisturbed [(channel, payload)] (fun _ => []) hub (hub.begun channel payload) where
  state := rfl
  turns := .refl
  confined h := h
  history := ⟨[.begun hub.emissions channel payload (hub.board.listeners channel)],
    history_record _ _, rfl, fun _ => rfl⟩

/-- A listener is called. -/
theorem called (hub : Hub σ ο τ π ρ) (n : Nat) (id : ListenerId) (payload : π) :
    Undisturbed [] (fun j => if id = j then [payload] else []) hub
      (hub.record (.called n id payload)) where
  state := rfl
  turns := .refl
  confined h := h
  history := ⟨[_], history_record hub _, rfl, fun j => received_called j n id payload⟩

/-- An incident is put on record in which nobody is called and no emission begins. -/
theorem record (hub : Hub σ ο τ π ρ) {i : Incident τ π ρ} (he : i.emission = none)
    (hr : ∀ id, i.heardBy? id = none) : Undisturbed [] (fun _ => []) hub (hub.record i) where
  state := rfl
  turns := .refl
  confined h := h
  history := by
    refine ⟨[i], history_record hub i, ?_, fun id => ?_⟩
    · rw [emitted, List.filterMap_cons_none he, List.filterMap_nil]
    · rw [received, List.filterMap_cons_none (hr id), List.filterMap_nil]

/-- What is followed by silence. -/
theorem trans_silent (h₁ : Undisturbed sent₁ heard₁ hub hub₁)
    (h₂ : Undisturbed [] (fun _ => []) hub₁ hub₂) : Undisturbed sent₁ heard₁ hub hub₂ :=
  (h₁.trans h₂).congr (List.append_nil _) fun _ => List.append_nil _

theorem tacit (h : Tacit (fun _ => False) hub hub₁) : Undisturbed [] (fun _ => []) hub hub₁ where
  state := h.state
  turns := h.turns
  confined := h.confined
  history := by
    obtain ⟨rs, hh⟩ := h.history
    exact ⟨_, hh, emitted_reports rs, fun id => received_reports id rs⟩

end Undisturbed

/-- Being undisturbed with nothing emitted and nothing heard follows the tacit moves. -/
theorem governs_undisturbed : Governs (fun _ : ο => False)
    (Undisturbed (σ := σ) (τ := τ) (π := π) (ρ := ρ) [] (fun _ => [])) where
  refl := .refl
  trans := .trans
  tacit := .tacit
  confined h := h.confined

variable (m : Machine σ ο τ π)

theorem run_undisturbed {a : Action ο τ π ρ} (ha : a.Confined fun _ => False) {hub : Hub σ ο τ π ρ}
    (hhub : hub.Confined fun _ => False) :
    Undisturbed [] (fun _ => []) hub (run m a hub).1 :=
  governs_undisturbed.runWithin (fun _ _ _ _ hop => hop.elim) _ ha hhub

/-- Who comes to a channel has the next handle for it. -/
theorem holds_listen (hub : Hub σ ο τ π ρ) (name : String) (channel : τ) (report : π → List ρ)
    (plan : List (Nat × Action ο τ π ρ)) :
    (run m (.listen name channel report plan) hub).1.board.Holds hub.board.handles.length channel
      hub.listeners.length := by
  rw [run_eq]
  exact Board.holds_subscribe hub.board channel hub.listeners.length

section Emit

variable {act : Action ο τ π ρ → Hub σ ο τ π ρ → Hub σ ο τ π ρ × Option Fault}
  (hact : ∀ a hub, a.Confined (fun _ => False) → hub.Confined (fun _ => False) →
    Undisturbed [] (fun _ => []) hub (act a hub).1)
include hact

/-- A listener hears the payload that it is called with, and nobody else hears anything. -/
theorem call_undisturbed (n : Nat) (channel : τ) (payload : π) {hub : Hub σ ο τ π ρ}
    (hhub : hub.Confined fun _ => False) (id : ListenerId) :
    Undisturbed [] (fun j => if id = j then [payload] else []) hub
      (call act n channel payload hub id) := by
  obtain ⟨hub', hran, hleft⟩ := governs_undisturbed.call hact n channel payload hhub id
  have hcalled := (Undisturbed.called hub n id payload).trans_silent hran
  rcases hleft with heq | ⟨fault, heq⟩
  · rw [heq]
    exact hcalled.trans_silent (.record hub' rfl fun _ => rfl)
  · rw [heq]
    exact (hcalled.trans_silent (.record hub' rfl fun _ => rfl)).trans_silent
      (.record _ rfl fun _ => rfl)

theorem callAll_undisturbed (n : Nat) (channel : τ) (payload : π) (audience : List ListenerId)
    {hub : Hub σ ο τ π ρ} (hhub : hub.Confined fun _ => False) :
    Undisturbed [] (fun j => List.replicate (audience.count j) payload) hub
      (audience.foldl (call act n channel payload) hub) := by
  induction audience generalizing hub with
  | nil => exact .refl hub
  | cons id audience ih =>
    have hcall := call_undisturbed hact n channel payload hhub id
    refine (hcall.trans (ih (hcall.confined hhub))).congr rfl fun j => ?_
    by_cases hj : id = j
    · rw [if_pos hj, hj, List.count_cons_self, List.replicate_succ, List.singleton_append]
    · rw [if_neg hj, List.count_cons_of_ne hj, List.nil_append]

/-- Everybody on the channel hears the payload, once for each time that he stands there. -/
theorem emit_undisturbed (channel : τ) (payload : π) {hub : Hub σ ο τ π ρ}
    (hhub : hub.Confined fun _ => False) :
    Undisturbed [(channel, payload)]
      (fun j => List.replicate ((hub.board.listeners channel).count j) payload) hub
      (hub.emit act channel payload) := by
  have hbegun := Undisturbed.begun hub channel payload
  have hcalls := callAll_undisturbed hact hub.emissions channel payload
    (hub.board.listeners channel) (hbegun.confined hhub)
  refine ((hbegun.trans hcalls).congr ?_ fun _ => ?_).trans_silent (.record _ rfl fun _ => rfl)
  · exact List.append_nil _
  · exact List.nil_append _

end Emit

end Hub

end Typeset.Events
