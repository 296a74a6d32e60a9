import Typeset.Proofs.Registry.Overtaking
import Typeset.Proofs.Registry.Reflection

/-!
# Operations from inside listeners

Listeners may operate the registry while they are called, and nothing puts their operations off
until the operation at work has told everybody. The status of a document is the one that was
invoked last, however the operations are nested. Who follows the statuses hears them in the order
in which they were invoked as long as no operation on the document overtakes another on its way to
him; without this the last thing that he hears may be out of date.

What a run adds to the history is described once and for all runs, with the operations as the only
moves at which something has to be checked.

## Main definitions

* `Registry.Grows`: what a run adds to the history, and where it leaves the status of a document
* `Registry.InStep`: a listener was told what was invoked, unless something was overtaken

## Main results

* `Registry.governs_inStep`, `Registry.operate_inStep`: every run is in step
* `Registry.told_status_of_not_overtaken`: the last status told is the one that the registry gives
* `Registry.told_status_out_of_date`: a listener that is overtaken ends up with an old status
-/

namespace Typeset.Registry

open Events (Action Board Effect Handle Hub Incident ListenerId Repeats)

variable {ρ : Type}

/-! ## The notices of an operation -/

/-- What an operation has to do with a document: nothing, or it gives the document a status and
tells it in its only notice, or in the second one. -/
theorem apply_cases (file : String) (r : Registry) (now : Float) {op : Operation}
    (hop : op ≠ .dispose) :
    (((op.apply r now).1.status file).status = (r.status file).status ∧
      ∀ n ∈ (op.apply r now).2, n.opens? file = none ∧ n.status? file = none) ∨
    ∃ s, ((op.apply r now).1.status file).status = s ∧
      ((∃ n, (op.apply r now).2 = [n] ∧ n.opens? file = some s ∧ n.status? file = some s) ∨
        ∃ n n', (op.apply r now).2 = [n, n'] ∧ n.opens? file = some s ∧ n.status? file = none ∧
          n'.opens? file = none ∧ n'.status? file = some s) := by
  cases op with
  | start f =>
    by_cases h : f = file
    · exact .inr ⟨.building, by simp [Operation.apply, start, h, snapshot, Record.status], .inr
        ⟨_, _, rfl, by simp [Notice.opens?, h], rfl, rfl, by simp [Notice.status?, h]⟩⟩
    · exact .inl ⟨by simp [Operation.apply, start, status_put_of_ne r (Ne.symm h)],
        by simp [Operation.apply, start, Notice.opens?, Notice.status?, h]⟩
  | finish f output given =>
    by_cases h : f = file
    · exact .inr ⟨.success, by simp [Operation.apply, finish, h, snapshot, Record.status], .inr
        ⟨_, _, rfl, by simp [Notice.opens?, h], rfl, rfl, by simp [Notice.status?, h]⟩⟩
    · exact .inl ⟨by simp [Operation.apply, finish, status_put_of_ne r (Ne.symm h)],
        by simp [Operation.apply, finish, Notice.opens?, Notice.status?, h]⟩
  | fail f error output =>
    by_cases h : f = file
    · exact .inr ⟨.error, by simp [Operation.apply, fail, h, snapshot, Record.status], .inr
        ⟨_, _, rfl, by simp [Notice.opens?, h], rfl, rfl, by simp [Notice.status?, h]⟩⟩
    · exact .inl ⟨by simp [Operation.apply, fail, status_put_of_ne r (Ne.symm h)],
        by simp [Operation.apply, fail, Notice.opens?, Notice.status?, h]⟩
  | reset f =>
    cases f with
    | none => exact .inr ⟨.idle, rfl, .inl ⟨_, rfl, rfl, rfl⟩⟩
    | some f =>
      by_cases h : f = file
      · subst h
        exact .inr ⟨.idle, by simp [Operation.apply, reset], .inl
          ⟨_, rfl, by simp [Notice.opens?], by simp [Notice.status?]⟩⟩
      · refine .inl ⟨?_, by simp [Operation.apply, reset, Notice.opens?, Notice.status?, h]⟩
        simp [Operation.apply, reset, status_erase_of_ne r (Ne.symm h)]
  | publish f ds =>
    exact .inl ⟨rfl, by simp [Operation.apply, publish, Notice.opens?, Notice.status?]⟩
  | dispose => exact absurd rfl hop

/-- Statuses are told on their own channel. -/
theorem topic_of_status? {file : String} {n : Notice} {s : BuildStatus}
    (h : n.status? file = some s) : n.topic = .statusChanged := by
  cases n with
  | statusChanged => rfl
  | _ => cases h

/-! ## Between two moments -/

/-- The status that a registry gives for a document. -/
def statusIn (file : String) (hub : Hub Timed Operation Topic Notice ρ) : BuildStatus :=
  (hub.state.registry.status file).status

/-- Operations that leave the listeners where they are. -/
abbrev Lasting (op : Operation) : Prop := op ≠ .dispose

/-- Between two moments the incidents `is` happened, and the status of a document is that of the
operation on it that was invoked last. -/
structure Grows (file : String) (is : List (Incident Topic Notice ρ))
    (hub hub' : Hub Timed Operation Topic Notice ρ) : Prop where
  turns : Board.Turns hub.board hub'.board
  confined : hub.Confined Lasting → hub'.Confined Lasting
  history : hub'.history = hub.history ++ is
  status : (invoked file is).getLast?.getD (statusIn file hub) = statusIn file hub'

/-- A listener follows the statuses between two moments. -/
structure Stays (h : Handle) (id : ListenerId) (hub hub' : Hub Timed Operation Topic Notice ρ) :
    Prop where
  accounted : hub.board.Accounted
  holds : hub.board.Holds h .statusChanged id
  live : hub'.board.isDisposed h = false

/-- What happened between two moments told a listener the statuses of a document that were invoked,
in order, unless one operation overtook another. -/
def InStep (file : String) (h : Handle) (id : ListenerId)
    (hub hub' : Hub Timed Operation Topic Notice ρ) : Prop :=
  ∃ is, Grows file is hub hub' ∧ (Stays h id hub hub' → overtaken file id is = false →
    Repeats (fun _ => True) (invoked file is) (told file id is))

variable {file : String} {h : Handle} {id : ListenerId}
  {hub hub₁ hub₂ : Hub Timed Operation Topic Notice ρ} {is is₁ is₂ : List (Incident Topic Notice ρ)}

namespace Grows

theorem refl (file : String) (hub : Hub Timed Operation Topic Notice ρ) :
    Grows file [] hub hub where
  turns := .refl
  confined h := h
  history := (List.append_nil _).symm
  status := rfl

theorem trans (g₁ : Grows file is₁ hub hub₁) (g₂ : Grows file is₂ hub₁ hub₂) :
    Grows file (is₁ ++ is₂) hub hub₂ where
  turns := g₁.turns.trans g₂.turns
  confined h := g₂.confined (g₁.confined h)
  history := by rw [g₂.history, g₁.history, List.append_assoc]
  status := by
    rw [← g₂.status, ← g₁.status, invoked_append, List.getLast?_append]
    cases (invoked file is₂).getLast? <;> rfl

/-- An incident with which no operation begins. -/
theorem incident (hub : Hub Timed Operation Topic Notice ρ) {i : Incident Topic Notice ρ}
    (hi : opens? file i = none) : Grows file [i] hub (hub.record i) where
  turns := .refl
  confined h := h
  history := Hub.history_record hub i
  status := by
    rw [invoked, List.filterMap_cons_none hi]
    rfl

/-- The state changes and the first notice goes out. -/
theorem opening (file : String) (hub : Hub Timed Operation Topic Notice ρ) (t : Timed) (n : Notice)
    (hn : (n.opens? file).getD (statusIn file hub) = (t.registry.status file).status) :
    Grows file [.begun hub.emissions n.topic n (hub.board.listeners n.topic)] hub
      ({ hub with state := t }.begun n.topic n) where
  turns := .refl
  confined h := h
  history := Hub.history_record _ _
  status := by
    refine Eq.trans ?_ hn
    cases ho : n.opens? file <;> simp [invoked, opens?, Incident.emission, ho]

end Grows

namespace Stays

theorem first (s : Stays h id hub hub₂) (t : Board.Turns hub.board hub₁.board)
    (t' : Board.Turns hub₁.board hub₂.board) : Stays h id hub hub₁ :=
  ⟨s.accounted, s.holds, (s.holds.of_live t t' s.live).isDisposed⟩

theorem second (s : Stays h id hub hub₂) (t : Board.Turns hub.board hub₁.board)
    (t' : Board.Turns hub₁.board hub₂.board) : Stays h id hub₁ hub₂ :=
  ⟨s.accounted.turns t, s.holds.of_live t t' s.live, s.live⟩

end Stays

namespace InStep

theorem refl (hub : Hub Timed Operation Topic Notice ρ) : InStep file h id hub hub :=
  ⟨[], .refl file hub, fun _ _ => .nil⟩

theorem trans (s₁ : InStep file h id hub hub₁) (s₂ : InStep file h id hub₁ hub₂) :
    InStep file h id hub hub₂ := by
  obtain ⟨is₁, g₁, r₁⟩ := s₁
  obtain ⟨is₂, g₂, r₂⟩ := s₂
  refine ⟨is₁ ++ is₂, g₁.trans g₂, fun hs ho => ?_⟩
  rw [invoked_append, told_append]
  exact (r₁ (hs.first g₁.turns g₂.turns) (overtaken_append_left ho)).append
    (r₂ (hs.second g₁.turns g₂.turns) (overtaken_append_right ho))

/-- A move without operations and emissions. -/
theorem tacit (t : Hub.Tacit Lasting hub hub₁) : InStep file h id hub hub₁ := by
  obtain ⟨rs, hh⟩ := t.history
  have hinvoked : invoked file (rs.map .report : List (Incident Topic Notice ρ)) = [] :=
    invoked_eq_nil (by simp [opens?, Incident.emission])
  refine ⟨_, ⟨t.turns, t.confined, hh, ?_⟩, fun _ _ => ?_⟩
  · rw [hinvoked, statusIn, statusIn, t.state]
    rfl
  · have htold : told file id (rs.map .report : List (Incident Topic Notice ρ)) = [] :=
      List.filterMap_eq_nil_iff.mpr (by simp [tells?, Incident.heardBy?])
    rw [hinvoked, htold]
    exact .nil

/-- An incident with which no operation begins and the listener is told nothing. -/
theorem incident (hub : Hub Timed Operation Topic Notice ρ) {i : Incident Topic Notice ρ}
    (hi : opens? file i = none) (ht : tells? file id i = none) :
    InStep file h id hub (hub.record i) := by
  refine ⟨[i], .incident hub hi, fun _ _ => ?_⟩
  rw [invoked, told, List.filterMap_cons_none hi, List.filterMap_cons_none ht]
  exact .nil

end InStep

/-- Being in step follows the tacit moves. -/
theorem governs_inStep : Hub.Governs Lasting (InStep (ρ := ρ) file h id) where
  refl := .refl
  trans := .trans
  tacit := .tacit
  confined := fun ⟨_, g, _⟩ => g.confined

/-! ## Emissions -/

section Emit

variable {act : Action Operation Topic Notice ρ → Hub Timed Operation Topic Notice ρ →
    Hub Timed Operation Topic Notice ρ × Option Events.Fault}
  (hact : ∀ a hub, a.Confined Lasting → hub.Confined Lasting → InStep file h id hub (act a hub).1)
include hact

/-- A listener is called; it is told the notice, and what it does is in step. -/
theorem call_inStep (emission : Nat) (n : Notice) (hhub : hub.Confined Lasting) (j : ListenerId) :
    let hub' := Hub.call act emission n.topic n hub j
    ∃ is, Grows file (.called emission j n :: is) hub hub' ∧
      (Stays h id hub hub' → overtaken file id is = false →
        Repeats (fun _ => True) (invoked file is) (told file id is)) := by
  have hcalled : Grows file [.called emission j n] hub (hub.record (.called emission j n)) :=
    .incident hub rfl
  obtain ⟨hub₁, hran, hleft⟩ := governs_inStep.call hact emission n.topic n hhub j
  have hend : InStep file h id (hub.record (.called emission j n))
      (Hub.call act emission n.topic n hub j) := by
    rcases hleft with heq | ⟨fault, heq⟩ <;> rw [heq]
    · exact hran.trans (.incident _ rfl rfl)
    · exact (hran.trans (.incident _ rfl rfl)).trans (.incident _ rfl rfl)
  obtain ⟨is, g, r⟩ := hend
  exact ⟨is, hcalled.trans g, fun hs => r (hs.second hcalled.turns g.turns)⟩

/-- Everybody in the audience is called. A listener that is in the audience is told the status
first, and then what was invoked meanwhile, unless something was invoked before it was told. What is
invoked at a call is invoked too early for those who are called later. -/
theorem callAll_inStep (emission : Nat) (n : Notice) (audience : List ListenerId)
    (hhub : hub.Confined Lasting) :
    let hub' := audience.foldl (Hub.call act emission n.topic n) hub
    ∃ is, Grows file is hub hub' ∧
      (id ∈ audience → n.status? file ≠ none → ∃ i ∈ is, arrives file id emission n i) ∧
      (Stays h id hub hub' → overtaken file id is = false →
        opensBefore file (arrives file id emission n) is = false →
        Repeats (fun _ => True)
          ((if id ∈ audience then (n.status? file).toList else []) ++ invoked file is)
          (told file id is)) := by
  induction audience generalizing hub with
  | nil => exact ⟨[], .refl file hub, by simp, fun _ _ _ => .nil⟩
  | cons j audience ih =>
    obtain ⟨is₁, g₁, r₁⟩ := call_inStep hact emission n hhub j
    obtain ⟨is₂, g₂, hcalled, r₂⟩ := ih (g₁.confined hhub)
    refine ⟨.called emission j n :: is₁ ++ is₂, g₁.trans g₂, fun hmem hn => ?_, fun hs ho hb => ?_⟩
    · rcases List.mem_cons.mp hmem with rfl | hmem
      · exact ⟨_, List.mem_cons_self, by simp [arrives, Option.isSome_iff_ne_none, hn]⟩
      · obtain ⟨i, hi, harrives⟩ := hcalled hmem hn
        exact ⟨i, List.mem_append_right _ hi, harrives⟩
    · have ho : overtaken file id (is₁ ++ is₂) = false := ho
      have r₁ := r₁ (hs.first g₁.turns g₂.turns) (overtaken_append_left ho)
      have r₂ := r₂ (hs.second g₁.turns g₂.turns) (overtaken_append_right ho)
        (opensBefore_append_right hb)
      rw [List.cons_append, invoked_called_cons, told_called_cons, invoked_append, told_append]
      cases hn : n.status? file with
      | none => simpa [hn] using r₁.append r₂
      | some s =>
        simp only [hn, Option.toList_some] at r₂ ⊢
        by_cases hmem : id ∈ audience
        · have hnil : invoked file (.called emission j n :: is₁) = [] :=
            invoked_eq_nil_of_opensBefore hb (hcalled hmem (by simp [hn]))
          rw [invoked_called_cons] at hnil
          rw [hnil] at r₁ ⊢
          rw [r₁.eq_nil, if_pos (List.mem_cons_of_mem _ hmem)]
          rw [if_pos hmem] at r₂
          by_cases hj : j = id
          · rw [if_pos hj]
            exact r₂.again
          · rw [if_neg hj]
            exact r₂
        · rw [if_neg hmem] at r₂
          by_cases hj : j = id
          · rw [if_pos hj, if_pos (hj ▸ List.mem_cons_self)]
            exact .cons (k := 1) (fun _ => Nat.one_pos) (r₁.append r₂)
          · rw [if_neg hj, if_neg (by simp [hmem, Ne.symm hj])]
            exact r₁.append r₂

/-- A notice goes out after its emission has begun. Its audience is told the status first, and then
what was invoked meanwhile, unless something was invoked before it was told; and if it is the first
of two notices of an operation, nothing was invoked at all before it had gone out. -/
theorem emit_inStep (n : Notice) (hhub : hub.Confined Lasting) :
    ∃ is, Grows file is (hub.begun n.topic n) (hub.emit act n.topic n) ∧
      (Stays h id (hub.begun n.topic n) (hub.emit act n.topic n) → overtaken file id is = false →
        ∀ js, opensBefore file (arrives file id hub.emissions n) (is ++ js) = false →
        Repeats (fun _ => True) ((n.status? file).toList ++ invoked file is) (told file id is) ∧
          (n.status? file = none → n.opens? file ≠ none → invoked file is = [])) := by
  have hbegun : (hub.begun n.topic n).Confined Lasting := hhub
  obtain ⟨is, g, -, r⟩ :=
    callAll_inStep hact hub.emissions n (hub.board.listeners n.topic) hbegun
  have gend : Grows file [.ended hub.emissions] _ (hub.emit act n.topic n) := .incident _ rfl
  have hended : invoked file (is ++ [.ended hub.emissions]) = invoked file is := by
    rw [invoked_append]
    exact List.append_nil _
  have htold : told file id (is ++ [.ended hub.emissions]) = told file id is := by
    rw [told_append]
    exact List.append_nil _
  refine ⟨is ++ [.ended hub.emissions], g.trans gend,
    fun hs ho js hb => ⟨?_, fun hstatus hopens => ?_⟩⟩
  · have r := r (hs.first g.turns gend.turns) (overtaken_append_left ho)
      (opensBefore_append_left (opensBefore_append_left hb))
    rw [hended, htold]
    cases hn : n.status? file with
    | none => simpa [hn] using r
    | some s =>
      have hmem : id ∈ hub.board.listeners n.topic :=
        topic_of_status? hn ▸ hs.accounted.mem_listeners hs.holds
      rw [if_pos hmem, hn] at r
      exact r
  · rw [hended]
    rw [List.append_assoc] at hb
    exact invoked_eq_nil_of_opensBefore hb ⟨_, List.mem_append_left _ List.mem_cons_self, by
      simp [arrives, hstatus, Option.isSome_iff_ne_none, hopens]⟩

/-- A notice that has nothing to do with the document. -/
theorem emit_inStep_of_irrelevant {n : Notice} (hopens : n.opens? file = none)
    (hstatus : n.status? file = none) (hhub : hub.Confined Lasting) :
    InStep file h id hub (hub.emit act n.topic n) := by
  obtain ⟨is, g, r⟩ := emit_inStep hact n hhub
  have gbegun := Grows.opening file hub hub.state n (by rw [hopens]; rfl)
  refine ⟨_, gbegun.trans g, fun hs ho => ?_⟩
  rw [List.singleton_append, invoked_begun_cons, told_begun_cons, hopens]
  have r := (r (hs.second gbegun.turns g.turns) (overtaken_append_right ho) []
    (opensBefore_of_irrelevant hopens hstatus _)).1
  rw [hstatus] at r
  exact r

theorem emitAll_inStep_of_irrelevant (ns : List Notice)
    (hns : ∀ n ∈ ns, n.opens? file = none ∧ n.status? file = none) (hhub : hub.Confined Lasting) :
    InStep file h id hub ((ns.map fun n => Effect.emit n.topic n).foldl (Hub.apply act) hub) := by
  induction ns generalizing hub with
  | nil => exact .refl hub
  | cons n ns ih =>
    obtain ⟨hn, hns⟩ := List.forall_mem_cons.mp hns
    have hone := emit_inStep_of_irrelevant hact hn.1 hn.2 hhub
    exact hone.trans (ih hns (governs_inStep.confined hone hhub))

/-- The state changes, and the only notice opens the operation and tells the status. -/
theorem opening_inStep {t : Timed} {n : Notice} {s : BuildStatus}
    (hs : (t.registry.status file).status = s) (hopens : n.opens? file = some s)
    (hstatus : n.status? file = some s) (hhub : hub.Confined Lasting) :
    InStep file h id hub (Hub.emit act n.topic n { hub with state := t }) := by
  have hmoved : Hub.Confined Lasting { hub with state := t } := hhub
  obtain ⟨is, g, r⟩ := emit_inStep hact n hmoved
  have gbegun := Grows.opening file hub t n (by rw [hopens, hs]; rfl)
  refine ⟨_, gbegun.trans g, fun hst ho => ?_⟩
  rw [List.singleton_append] at ho ⊢
  obtain ⟨hb, ho⟩ := overtaken_begun_cons ho
  have r := (r (hst.second gbegun.turns g.turns) ho [] (by rwa [List.append_nil])).1
  rw [invoked_begun_cons, told_begun_cons, hopens]
  rwa [hstatus] at r

/-- The state changes, the first notice opens the operation, and the second one tells the status.
Nothing was invoked while the first one went out, so nothing was told either. -/
theorem openingPair_inStep {t : Timed} {n n' : Notice} {s : BuildStatus}
    (hs : (t.registry.status file).status = s) (hopens : n.opens? file = some s)
    (hstatus : n.status? file = none) (hopens' : n'.opens? file = none)
    (hstatus' : n'.status? file = some s) (hhub : hub.Confined Lasting) :
    InStep file h id hub
      (Hub.emit act n'.topic n' (Hub.emit act n.topic n { hub with state := t })) := by
  have hmoved : Hub.Confined Lasting { hub with state := t } := hhub
  obtain ⟨is₁, g₁, r₁⟩ := emit_inStep hact n hmoved
  have gbegun := Grows.opening file hub t n (by rw [hopens, hs]; rfl)
  have gfirst := gbegun.trans g₁
  let mid := Hub.emit act n.topic n { hub with state := t }
  have hmid : mid.Confined Lasting := gfirst.confined hhub
  obtain ⟨is₂, g₂, r₂⟩ := emit_inStep hact n' hmid
  have gsecond := (Grows.opening file mid mid.state n' (by rw [hopens']; rfl)).trans g₂
  refine ⟨_, gfirst.trans gsecond, fun hst ho => ?_⟩
  have hfirst := hst.first gfirst.turns gsecond.turns
  have hsecond := hst.second gfirst.turns gsecond.turns
  obtain ⟨hb₂, ho₂⟩ := overtaken_begun_cons (overtaken_append_right ho)
  rw [List.singleton_append, List.cons_append] at ho
  obtain ⟨hb₁, ho₁⟩ := overtaken_begun_cons ho
  obtain ⟨r₁, hinvoked⟩ :=
    r₁ (hfirst.second gbegun.turns g₁.turns) (overtaken_append_left ho₁) _ hb₁
  have hinvoked : invoked file is₁ = [] := hinvoked hstatus (by simp [hopens])
  have htold : told file id is₁ = [] := by
    rw [hstatus, hinvoked] at r₁
    exact r₁.eq_nil
  have r₂ := (r₂ (hsecond.second .refl g₂.turns) ho₂ [] (by rwa [List.append_nil])).1
  rw [hstatus'] at r₂
  simp only [List.cons_append, invoked_begun_cons, told_begun_cons, invoked_append, told_append,
    hopens, hopens', hinvoked, htold]
  exact r₂

/-- An operation is in step if all that listeners do meanwhile is. -/
theorem operate_inStep {op : Operation} (hop : op ≠ .dispose) (hhub : hub.Confined Lasting) :
    InStep file h id hub (Hub.step machine act (.operate op) hub).1 := by
  obtain ⟨now, hperform⟩ := perform_eq op hub.state hop
  rw [Prod.mk.injEq] at hperform
  obtain ⟨hregistry, heffects⟩ := hperform
  simp only [Hub.step, heffects]
  generalize (machine.perform op hub.state).1 = t at hregistry
  rcases apply_cases file hub.state.registry now hop with ⟨hsame, hns⟩ | ⟨s, hs, hns⟩
  · have hstatus : (invoked file ([] : List (Incident Topic Notice ρ))).getLast?.getD
        (statusIn file hub) = statusIn file { hub with state := t } := by
      simp [invoked, statusIn, hregistry, hsame]
    have hmoved : InStep file h id hub { hub with state := t } :=
      ⟨[], ⟨.refl, fun h => h, (List.append_nil _).symm, hstatus⟩, fun _ _ => .nil⟩
    exact hmoved.trans (emitAll_inStep_of_irrelevant hact _ hns hhub)
  · rw [← hregistry] at hs
    rcases hns with ⟨n, hn, hopens, hstatus⟩ | ⟨n, n', hn, hopens, hstatus, hopens', hstatus'⟩ <;>
      rw [hn]
    · exact opening_inStep hact hs hopens hstatus hhub
    · exact openingPair_inStep hact hs hopens hstatus hopens' hstatus' hhub

end Emit

/-- Every run is in step. -/
theorem runEach_inStep (file : String) (h : Handle) (id : ListenerId)
    {actions : List (Action Operation Topic Notice ρ)}
    (hactions : ∀ a ∈ actions, a.Confined Lasting) (hhub : hub.Confined Lasting) :
    InStep file h id hub (hub.runEach machine actions) :=
  governs_inStep.runEach (fun _ hact _ _ hop hhub => operate_inStep hact hop hhub) hactions hhub

/-- Somebody follows the statuses of a registry, and everybody, inside listeners or not, may operate
it and do whatever leaves the listeners where they are. The status of a document is the one that an
operation gave it last. As long as the handle is live, and no operation on the document has
overtaken another on its way to the follower, he was told the statuses in the order of the
operations, so that the last one he was told is the one that the registry gives. -/
theorem told_status_of_not_overtaken (clock : Clock)
    (before after : List (Action Operation Topic Notice ρ)) (name : String)
    (report : Notice → List ρ) (plan : List (Nat × Action Operation Topic Notice ρ))
    (hbefore : ∀ a ∈ before, a.Confined Lasting) (hplan : Action.PlanConfined Lasting plan)
    (hafter : ∀ a ∈ after, a.Confined Lasting) (file : String) :
    let hub₁ := Hub.runEach machine before (fresh clock)
    let hub := hub₁.runEach machine (.listen name .statusChanged report plan :: after)
    let is := hub.history.drop hub₁.history.length
    (∀ s, (invoked file is).getLast? = some s → (hub.state.registry.status file).status = s) ∧
      (hub.board.isDisposed hub₁.board.handles.length = false →
        overtaken file hub₁.listeners.length is = false →
        Repeats (fun _ => True) (invoked file is) (told file hub₁.listeners.length is) ∧
          (invoked file is ≠ [] → (told file hub₁.listeners.length is).getLast? =
            some (hub.state.registry.status file).status)) := by
  intro hub₁ hub is
  have hfresh : Hub.Confined Lasting (fresh (ρ := ρ) clock) := by simp [Hub.Confined, fresh]
  -- the listeners before the follower do not matter
  obtain ⟨is₀, g₀, -⟩ := runEach_inStep file 0 0 hbefore hfresh
  have hconfined : hub₁.Confined Lasting := g₀.confined hfresh
  have hacc : hub₁.board.Accounted := Board.accounted_empty.turns g₀.turns
  -- the follower comes
  let hub₂ := (hub₁.run machine (.listen name .statusChanged report plan)).1
  have hholds := Hub.holds_listen machine hub₁ name .statusChanged report plan
  have hhistory : hub₂.history = hub₁.history := by
    simp only [hub₂, Hub.run_eq]
    rfl
  have hlisten : InStep file 0 0 hub₁ hub₂ :=
    governs_inStep.runWithin (fun _ hact _ _ hop hhub => operate_inStep hact hop hhub) _
      (by rwa [Action.Confined]) hconfined
  obtain ⟨_, glisten, -⟩ := hlisten
  -- and everybody goes on
  obtain ⟨is', g, r⟩ := runEach_inStep file hub₁.board.handles.length
    hub₁.listeners.length hafter (glisten.confined hconfined)
  rw [← Hub.runEach_cons] at g r
  have hall : hub.history = hub₁.history ++ is' := hhistory ▸ g.history
  have his : is = is' := by simp only [is, hall, List.drop_left]
  rw [his]
  have hlast (s : BuildStatus) (hs : (invoked file is').getLast? = some s) :
      (hub.state.registry.status file).status = s := by
    have := g.status
    rw [hs] at this
    exact this.symm
  refine ⟨hlast, fun hlive ho => ?_⟩
  have hrepeats := r ⟨hacc.turns glisten.turns, hholds, hlive⟩ ho
  refine ⟨hrepeats, fun hne => ?_⟩
  rw [hrepeats.getLast? fun _ => trivial, List.getLast?_eq_some_getLast hne]
  exact congrArg some (hlast _ (List.getLast?_eq_some_getLast hne)).symm

/-- Others operate the registry from inside the emissions that the follower hears: the build of a
second document begins before the follower has heard of the first one, and the first one is done
as soon as he has. -/
theorem told_status_of_nested_operations :
    let before : List (Action Operation Topic Notice Unit) :=
      [.listen "first" .statusChanged (fun _ => []) [(1, .operate (.start "b.tex"))]]
    let after : List (Action Operation Topic Notice Unit) :=
      [.listen "last" .statusChanged (fun _ => [])
          [(1, .tell []), (1, .later 1 (.operate (.finish "a.tex" "" none)))],
        .operate (.start "a.tex")]
    let hub₁ := Hub.runEach machine before (fresh ⟨[], 0⟩)
    let hub := hub₁.runEach machine (.listen "follower" .statusChanged (fun _ => []) [] :: after)
    let is := hub.history.drop hub₁.history.length
    ((∀ a ∈ before, a.Confined Lasting) ∧
      Action.PlanConfined Lasting ([] : List (Nat × Action Operation Topic Notice Unit)) ∧
      (∀ a ∈ after, a.Confined Lasting) ∧ hub.board.isDisposed hub₁.board.handles.length = false ∧
      overtaken "a.tex" hub₁.listeners.length is = false) ∧
    invoked "a.tex" is = [.building, .success] ∧
    (told "a.tex" hub₁.listeners.length is).getLast? =
      some (hub.state.registry.status "a.tex").status := by
  intro before after hub₁ hub is
  have hbefore : ∀ a ∈ before, a.Confined Lasting := by
    simp [before, Action.Confined, Action.PlanConfined]
  have hafter : ∀ a ∈ after, a.Confined Lasting := by
    simp [after, Action.Confined, Action.PlanConfined]
  have hlive : hub.board.isDisposed hub₁.board.handles.length = false := by decide +kernel
  have hovertaken : overtaken "a.tex" hub₁.listeners.length is = false := by decide +kernel
  have hinvoked : invoked "a.tex" is = [.building, .success] := by decide +kernel
  have htold := ((told_status_of_not_overtaken ⟨[], 0⟩ before after "follower" (fun _ => []) []
    hbefore trivial hafter "a.tex").2 hlive hovertaken).2 (by rw [hinvoked]; simp)
  exact ⟨⟨hbefore, trivial, hafter, hlive, hovertaken⟩, hinvoked, htold⟩

/-- A listener to the beginnings of builds ends the build on the spot, before anybody has been told
that the document is being built. The follower, who was there from the beginning, is told so after
the end of the build, and his last news of the document is out of date. -/
theorem told_status_out_of_date :
    let hub : Hub Timed Operation Topic Notice Unit := Hub.runEach machine
      [.listen "follower" .statusChanged (fun _ => []) [],
        .listen "hasty" .started (fun _ => []) [(1, .operate (.finish "a.tex" "" none))],
        .operate (.start "a.tex")] (fresh ⟨[], 0⟩)
    hub.board.isDisposed 0 = false ∧ told "a.tex" 0 hub.history = [.success, .building] ∧
      (hub.state.registry.status "a.tex").status = .success := by
  decide +kernel

end Typeset.Registry
