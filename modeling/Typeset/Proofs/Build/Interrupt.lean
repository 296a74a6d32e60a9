import Typeset.Proofs.Build.Once

/-!
# Builds that are given up

When the user interrupts a session, it gives up the builds whose tools it has started. A document
between its start and the start of its tool is not yet one of them, so an interruption there leaves
it being built, and so does a path without a file name, after which nothing is given up at all. If
the user interrupts neither starts nor resets, a session that returns or is interrupted leaves no
document being built that was not built before. This covers interruptions at all other notices, and
those that come while the session listens to the pipes of its tools, with whatever these have told;
there are no others in a world.

A step that is stopped has not made anything worse: whatever is being built afterwards was being
built when the step began, and the session still works on the same documents.

## Main definitions

* `Build.Patient`: a world in which the user interrupts neither starts nor resets
* `Build.Lessens`: no work was begun between two sessions
* `Build.Cared`: the session works on every document that came to be built

## Main results

* `Build.stopsEarly_complete`, `Build.stopsEarly_launch`: a step that is stopped began no work
* `Build.leads_buildEach_cared`: the session works on whatever it left being built
* `Build.not_left_building`: nothing is left being built in a patient world
* `Build.left_building`: an interruption of a start leaves a document being built
-/

namespace Typeset

open Registry (Notice Operation Timed)

/-! ## Documents that are being built -/

namespace Registry

variable {file other : String}

theorem isBuilding_put_self (r : Registry) (file : String) (x : Record) :
    (r.put file x).isBuilding file = x.isBuilding := by
  rw [isBuilding, find?_put_self, Option.any_some]

/-- Whether an operation ends the build of a document. -/
def Operation.Ends (file : String) : Operation → Prop
  | finish f _ _ => f = file
  | fail f _ _ => f = file
  | reset f => f = some file
  | _ => False

/-- After the end of its build a document has no record of one. -/
theorem Operation.Ends.perform {op : Operation} (h : op.Ends file) (t : Timed) :
    op.file? = some file ∧ (t.perform op).1.registry.isBuilding file = false := by
  cases op with
  | finish f output given =>
    obtain rfl : f = file := h
    exact ⟨rfl, isBuilding_put_self _ _ _⟩
  | fail f error output =>
    obtain rfl : f = file := h
    exact ⟨rfl, isBuilding_put_self _ _ _⟩
  | reset f =>
    obtain rfl : f = some file := h
    refine ⟨rfl, ?_⟩
    rw [isBuilding, Timed.find?_perform_reset]
    rfl
  | _ => exact h.elim

/-- A document whose build an operation ends is not being built, and no other one comes to be. -/
theorem Operation.Ends.isBuilding_perform {op : Operation} (h : op.Ends file) (t : Timed)
    (hb : (t.perform op).1.registry.isBuilding other = true) :
    other ≠ file ∧ t.registry.isBuilding other = true := by
  obtain ⟨hfile, hself⟩ := h.perform t
  have hne : other ≠ file := by
    rintro rfl
    rw [hself] at hb
    cases hb
  refine ⟨hne, ?_⟩
  rwa [isBuilding, Timed.find?_perform_of_ne t hfile hne, ← isBuilding] at hb

theorem isBuilding_perform_start (t : Timed)
    (hb : (t.perform (.start file)).1.registry.isBuilding other = true) :
    other = file ∨ t.registry.isBuilding other = true := by
  by_cases h : other = file
  · exact .inl h
  · rw [isBuilding, Timed.find?_perform_of_ne t rfl h, ← isBuilding] at hb
    exact .inr hb

end Registry

namespace Build

/-! ## Steps that begin no work -/

/-- The documents that are being built. -/
def Session.isBuilding (s : Session) (file : String) : Bool := s.registry.registry.isBuilding file

/-- Between two sessions no document came to be built, no tool was started and no document was
settled. -/
structure Lessens (s s' : Session) : Prop where
  jobs : s'.jobs = s.jobs
  outcomes : s'.outcomes = s.outcomes
  isBuilding : ∀ file, s'.isBuilding file → s.isBuilding file

theorem Lessens.refl (s : Session) : Lessens s s := ⟨rfl, rfl, fun _ h => h⟩

theorem Lessens.trans {s s' s'' : Session} (h : Lessens s s') (h' : Lessens s' s'') :
    Lessens s s'' where
  jobs := h'.jobs.trans h.jobs
  outcomes := h'.outcomes.trans h.outcomes
  isBuilding file hb := h.isBuilding file (h'.isBuilding file hb)

variable {α β : Type} {w : World} {s s' : Session} {p : Path}

/-- No work is begun, whether the step returns or not. -/
def Lessening (x : Run α) : Prop := ∀ s, Leads x s (fun _ => Lessens s) (Lessens s)

/-- No work is begun if the step is stopped. -/
def StopsEarly (x : Run α) : Prop := ∀ s, Leads x s (fun _ _ => True) (Lessens s)

theorem Lessening.bind {x : Run α} {f : α → Run β} (hx : Lessening x) (hf : ∀ a, Lessening (f a)) :
    Lessening (x >>= f) := fun s =>
  (hx s).andThen fun a s' hs =>
    (hf a s').mono (fun _ _ hs' => hs.trans hs') fun _ hs' => hs.trans hs'

theorem Lessening.bind_stopsEarly {x : Run α} {f : α → Run β} (hx : Lessening x)
    (hf : ∀ a, StopsEarly (f a)) : StopsEarly (x >>= f) := fun s =>
  (hx s).andThen fun a s' hs => (hf a s').mono (fun _ _ h => h) fun _ hs' => hs.trans hs'

theorem StopsEarly.leads {x : Run α} (hx : StopsEarly x) {E : Session → Prop}
    (hE : ∀ s', Lessens s s' → E s') : Leads x s (fun _ _ => True) E :=
  (hx s).mono (fun _ _ h => h) hE

theorem lessening_pure (a : α) : Lessening (pure a) := fun s => leads_pure (.refl s)

theorem lessening_throw (e : Stop) : Lessening (throw e : Run α) := fun s => leads_throw (.refl s)

theorem lessening_remark (r : Remark) : Lessening (remark r) := fun _ =>
  leads_modify ⟨rfl, rfl, fun _ h => h⟩

theorem lessening_tell (p : Progress) : Lessening (tell p) := lessening_remark _

theorem lessening_require (x : Option α) : Lessening (require x) := by
  cases x with
  | none => exact lessening_throw _
  | some a => exact lessening_pure a

theorem lessening_readLog (document logPath : Path) : Lessening (readLog w document logPath) := by
  unfold readLog
  split
  · exact lessening_pure _
  · exact fun _ => .bind (leads_get (.bind (leads_modify (leads_pure ⟨rfl, rfl, fun _ h => h⟩))))

theorem stopsEarly_settle (document : Path) (o : Outcome) : StopsEarly (settle document o) :=
  fun _ => leads_modify trivial

/-- The end of a build stays, even if the user interrupts its notices. -/
theorem leads_operate_ends {op : Operation} {file : String} (hop : op.Ends file) (s : Session) :
    Leads (operate w op) s (fun _ s' => Lessens s s' ∧ s'.isBuilding file = false)
      (fun s' => Lessens s s' ∧ s'.isBuilding file = false) := by
  have hended {s' : Session}
      (hs : s' = { s with registry := (s.registry.perform op).1, notices := s'.notices }) :
      Lessens s s' ∧ s'.isBuilding file = false := by
    rw [hs]
    refine ⟨⟨rfl, rfl, fun other hb => (hop.isBuilding_perform _ hb).2⟩, ?_⟩
    exact Bool.eq_false_iff.mpr fun hb => (hop.isBuilding_perform _ hb).1 rfl
  exact (leads_operate w op s).mono (fun _ _ hs => hended (by rw [hs])) fun _ hs => hended hs.1

theorem lessening_operate_ends {op : Operation} {file : String} (hop : op.Ends file) :
    Lessening (operate w op) := fun s =>
  (leads_operate_ends hop s).mono (fun _ _ h => h.1) fun _ h => h.1

theorem lessening_publish (file : String) (ds : List Diagnostic) :
    Lessening (operate w (.publish file ds)) := fun s =>
  (leads_operate w _ s).mono (fun _ _ hs => hs ▸ ⟨rfl, rfl, fun _ h => h⟩)
    fun _ hs => hs.1 ▸ ⟨rfl, rfl, fun _ h => h⟩

/-! ## Steps that are stopped -/

/-- The user interrupts neither starts nor resets, but may do so at all other notices, and while the
session listens to the pipes. -/
structure Patient (w : World) : Prop where
  started : ∀ file, w.interrupts (.started file) = false
  building : ∀ file, w.interrupts (.statusChanged .building (some file) none) = false
  idle : ∀ file, w.interrupts (.statusChanged .idle (some file) none) = false

theorem Verdict.ends_operation (v : Verdict) : v.operation.Ends v.outcome.file.str := by
  unfold operation
  cases v.outcome.error <;> rfl

theorem lessening_announce (v : Verdict) : Lessening (announce w v) := by
  refine announce_induction w v (lessening_pure ()) .bind lessening_remark fun op hop => ?_
  rcases List.mem_cons.mp hop with rfl | hop
  · exact lessening_operate_ends v.ends_operation
  · obtain rfl := List.mem_singleton.mp hop
    exact lessening_publish _ _

/-- If the completion of a tool is stopped, the session still works on its document. -/
theorem stopsEarly_complete (w : World) (j : Job) : StopsEarly (complete w j) := by
  have hreset : (Operation.reset (some j.document.str)).Ends j.document.str := rfl
  unfold complete
  refine (lessening_require _).bind_stopsEarly fun pdf => ?_
  split
  · exact (lessening_operate_ends hreset).bind_stopsEarly fun _ =>
      (lessening_tell _).bind_stopsEarly fun _ => stopsEarly_settle _ _
  · exact (lessening_require _).bind_stopsEarly fun logPath =>
      (lessening_readLog _ _).bind_stopsEarly fun log =>
        (lessening_announce _).bind_stopsEarly fun _ => stopsEarly_settle _ _

theorem stopsEarly_skip (document : Path) : StopsEarly (skip document) :=
  (lessening_remark _).bind_stopsEarly fun _ => (lessening_tell _).bind_stopsEarly fun _ =>
    (lessening_require _).bind_stopsEarly fun _ => stopsEarly_settle _ _

/-- If the report of a tool that was not started is stopped, its document is not being built. -/
theorem leads_refuse (w : World) (document : Path) (r : Refusal) (s : Session) :
    Leads (refuse w document r) s (fun _ _ => True)
      (fun s' => Lessens s s' ∧ s'.isBuilding document.str = false) := by
  have hfail : (Operation.fail document.str r.summary r.detail).Ends document.str := rfl
  refine (leads_operate_ends hfail s).andThen fun _ s₁ ⟨hs, hb⟩ => ?_
  refine StopsEarly.leads ?_ fun s' hs' => ⟨hs.trans hs', ?_⟩
  · exact (lessening_publish _ _).bind_stopsEarly fun _ =>
      (lessening_remark _).bind_stopsEarly fun _ => (lessening_tell _).bind_stopsEarly fun _ =>
        (lessening_require _).bind_stopsEarly fun _ => stopsEarly_settle _ _
  · exact Bool.eq_false_iff.mpr fun hb' => by simp [hs'.isBuilding _ hb'] at hb

/-- If the start of a document is stopped in a patient world, the document is not being built. -/
theorem stopsEarly_launch (hw : Patient w) (o : BuildOptions) (document : Path) :
    StopsEarly (launch w o document) := by
  have hcommand : Lessening (commandFor w o document) := by
    unfold commandFor
    split
    · exact lessening_pure _
    · exact lessening_throw _
  refine hcommand.bind_stopsEarly fun command s => ?_
  have hstart : Leads (operate w (.start document.str)) s
      (fun _ s' => s'.jobs = s.jobs ∧ s'.outcomes = s.outcomes ∧
        ∀ file, s'.isBuilding file → file = document.str ∨ s.isBuilding file)
      fun _ => False := by
    refine (leads_operate w _ s).mono (fun _ s' hs => ?_) fun s' hs => ?_
    · rw [hs]
      exact ⟨rfl, rfl, fun file hb => Registry.isBuilding_perform_start _ hb⟩
    · obtain ⟨-, n, hn, hi⟩ := hs
      have hn : n ∈ [Notice.started document.str,
        .statusChanged .building (some document.str) none] := hn
      rcases List.mem_cons.mp hn with rfl | hn
      · simp [hw.started] at hi
      · rw [List.mem_singleton.mp hn, hw.building] at hi
        cases hi
  refine (hstart.mono (fun _ _ h => h) fun _ h => h.elim).andThen fun _ s₁ ⟨hj, ho, hb⟩ => ?_
  refine .bind (leads_modify ?_)
  split
  · next r _ =>
    refine (leads_refuse w document r _).mono (fun _ _ h => h) fun s' ⟨hs, hnot⟩ => ?_
    refine ⟨hs.jobs.trans hj, hs.outcomes.trans ho, fun file hfile => ?_⟩
    refine (hb file (hs.isBuilding file hfile)).resolve_left fun heq => ?_
    rw [heq, hnot] at hfile
    cases hfile
  · exact leads_modify trivial

/-! ## The documents that a session works on -/

/-- Every document that is being built was being built before, or it is one of some others. -/
def Within (before : Timed) (others : List Path) (s : Session) : Prop :=
  ∀ file, s.isBuilding file → before.registry.isBuilding file ∨ ∃ p ∈ others, p.str = file

/-- Every document that is being built was being built before, or the session still works on it. -/
def Cared (before : Timed) (s : Session) : Prop := Within before s.unsettled s

variable {before : Timed}

theorem Cared.lessens (hs : Cared before s) (h : Lessens s s') : Cared before s' := by
  intro file hb
  have hsame : s'.unsettled = s.unsettled := by
    rw [Session.unsettled, h.jobs, h.outcomes, Session.unsettled]
  exact hsame ▸ hs file (h.isBuilding file hb)

/-- What is done for one document keeps the others in care. -/
theorem Cared.done {d : Deeds} (hs : Cared before s) (hd : d.Done s s') (habout : d.About p)
    (hp : ∀ file, s'.isBuilding file → (file = p.str ∧ p ∈ s'.unsettled) ∨
      s.isBuilding file ∧ (file = p.str → p ∉ s.unsettled)) : Cared before s' := by
  intro file hb
  rcases hp file hb with ⟨rfl, hmem⟩ | ⟨hb, hnot⟩
  · exact .inr ⟨p, hmem, rfl⟩
  · refine (hs file hb).imp_right fun ⟨q, hq, hfile⟩ => ⟨q, ?_, hfile⟩
    have hne : q ≠ p := fun h => hnot (by rw [← hfile, h]) (h ▸ hq)
    rw [Session.mem_unsettled] at hq ⊢
    exact ⟨(hd.started_iff_of_ne habout hne).mpr hq.1, (hd.lookup_of_ne habout hne).trans hq.2⟩

/-- A step does what it does, or it is stopped and begins no work. -/
theorem Performs.leads {x : Run α} {d : Deeds} (hx : Performs x d) (hstop : StopsEarly x)
    (s : Session) : Leads x s (fun _ => d.Done s) (Lessens s) := by
  have hdone := hx s
  have hlessens := hstop s
  unfold Leads at hdone hlessens ⊢
  rcases hr : x.run s with ⟨_ | a, s'⟩ <;> rw [hr] at hdone hlessens
  · exact hlessens
  · exact hdone

theorem leads_begin_cared (hw : Patient w) (o : BuildOptions) (p : Path) (hs : Cared before s) :
    Leads (begin w o p) s (fun _ => Cared before) (Cared before) := by
  refine .bind (leads_get ?_)
  by_cases hk : s.knows p
  · rw [if_pos hk]
    exact leads_pure hs
  · rw [if_neg hk]
    rw [Session.knows_iff, not_or, Classical.not_not] at hk
    have hnot : p ∉ s.unsettled := fun h => hk.2 ((s.mem_unsettled p).mp h).1
    split
    · refine ((performs_skip p).leads (stopsEarly_skip p) s).mono (fun _ s' hd => ?_)
        fun _ => hs.lessens
      refine hs.done hd (Deeds.about_skip p) fun file hb => .inr ⟨?_, fun _ => hnot⟩
      rwa [Session.isBuilding, hd.registry] at hb
    · obtain ⟨command, hlaunch⟩ := performs_launch w o p
      refine (hlaunch.leads (stopsEarly_launch hw o p) s).mono (fun _ s' hd => ?_)
        fun _ => hs.lessens
      cases hr : w.refusal p with
      | none =>
        rw [hr] at hd
        have habout := (Deeds.about_start p command).append (Deeds.about_run p)
        refine hs.done hd habout fun file hb => ?_
        rw [Session.isBuilding, hd.registry] at hb
        rcases Registry.isBuilding_perform_start _ hb with rfl | hb
        · refine .inl ⟨rfl, (s'.mem_unsettled p).mpr ⟨?_, ?_⟩⟩
          · exact (hd.started_iff p).mpr (.inr ⟨_, List.mem_cons_self, rfl⟩)
          · rw [hd.lookup, hk.1]
            rfl
        · exact .inr ⟨hb, fun _ => hnot⟩
      | some r =>
        rw [hr] at hd
        have habout := (Deeds.about_start p command).append (Deeds.about_refuse p r)
        have hfail : (Operation.fail p.str r.summary r.detail).Ends p.str := rfl
        refine hs.done hd habout fun file hb => .inr ⟨?_, fun _ => hnot⟩
        rw [Session.isBuilding, hd.registry] at hb
        obtain ⟨hne, hb⟩ := hfail.isBuilding_perform _ hb
        exact (Registry.isBuilding_perform_start _ hb).resolve_left hne

theorem leads_complete_cared (w : World) (j : Job) (hs : Cared before s) :
    Leads (complete w j) s (fun _ => Cared before) (Cared before) := by
  refine ((performs_complete w j).leads (stopsEarly_complete w j) s).mono (fun _ s' hd => ?_)
    fun _ => hs.lessens
  rw [Deeds.complete] at hd
  split at hd
  · have hreset : (Operation.reset (some j.document.str)).Ends j.document.str := rfl
    refine hs.done hd (Deeds.about_signalled w j) fun file hb => .inr ?_
    rw [Session.isBuilding, hd.registry] at hb
    obtain ⟨hne, hb⟩ := hreset.isBuilding_perform _ hb
    exact ⟨hb, fun h => absurd h hne⟩
  · have hends := (verdictOn w j).ends_operation
    rw [(verdictOn_cases w j).1] at hends
    refine hs.done hd (Deeds.about_judged w j) fun file hb => .inr ?_
    rw [Session.isBuilding, hd.registry] at hb
    obtain ⟨hne, hb⟩ := hends.isBuilding_perform _ hb
    exact ⟨hb, fun h => absurd h hne⟩

/-! ## The whole session -/

/-- Why a session was stopped, if it was. -/
def stop? : Except Stop α → Option Stop
  | .error e => some e
  | .ok _ => none

theorem stop?_eq_some {r : Except Stop α} {e : Stop} (h : stop? r = some e) : r = .error e := by
  cases r with
  | error e' => rw [Option.some.inj h]
  | ok a => cases h

theorem leads_buildEach_cared (hw : Patient w) (o : BuildOptions) (documents : List Path)
    (hs : Cared before { registry := before }) :
    Leads (buildEach w o documents) { registry := before }
      (fun _ s' => Cared before s' ∧ s'.unsettled = []) (Cared before) := by
  have hcared : Leads (buildEach w o documents) { registry := before }
      (fun _ => Cared before) (Cared before) := by
    have hbegin : Leads (forAll (begin w o) documents) { registry := before }
        (fun _ => Cared before) (Cared before) :=
      leads_forAll (I := fun _ => Cared before) (fun p _ _ => leads_begin_cared hw o p) hs
    refine hbegin.andThen fun _ s₁ hs₁ => .bind (leads_get ?_)
    rw [attend_eq]
    have hcomplete : Leads (forAll (complete w) ((Selector.watch s₁.jobs).drain w.readings).1) s₁
        (fun _ => Cared before) (Cared before) :=
      leads_forAll (I := fun _ => Cared before) (fun j _ _ => leads_complete_cared w j) hs₁
    refine hcomplete.andThen fun _ s₂ hs₂ => ?_
    split
    · exact leads_pure hs₂
    · exact leads_throw hs₂
  have hsettled := leads_buildEach_once (s := { registry := before }) w o documents rfl rfl
  exact (hcared.and hsettled).mono (fun _ _ h => ⟨h.1, h.2.2.1⟩) fun _ h => h.1

/-- A build that is given up is over, and nothing stops the session there. -/
theorem leads_giveUp (hw : Patient w) {todo : List Path} (hs : Within before (p :: todo) s) :
    Leads (giveUp w p) s (fun _ => Within before todo) fun _ => False := by
  have hends : (Operation.reset (some p.str)).Ends p.str := rfl
  have hreset : Leads (operate w (.reset (some p.str))) s (fun _ => Within before todo)
      fun _ => False := by
    refine (leads_operate w _ s).mono (fun _ s' hs' file hb => ?_) fun s' hs' => ?_
    · rw [hs'] at hb
      obtain ⟨hne, hb⟩ := hends.isBuilding_perform _ hb
      refine (hs file hb).imp_right fun ⟨q, hq, hfile⟩ => ⟨q, ?_, hfile⟩
      exact (List.mem_cons.mp hq).resolve_left fun h => hne (by rw [← hfile, h])
    · obtain ⟨-, n, hn, hi⟩ := hs'
      have hn : n ∈ [Notice.statusChanged .idle (some p.str) none] := hn
      rw [List.mem_singleton.mp hn, hw.idle] at hi
      cases hi
  exact hreset.andThen fun _ _ hs' => leads_modify hs'

/-- In a world in which the user interrupts neither starts nor resets, a session that returns or is
interrupted leaves no document being built that was not being built before. The interruption may
come at any other notice and anywhere among the readings of the pipes. -/
theorem not_left_building (hw : Patient w) (o : BuildOptions) (named : List Path) (before : Timed)
    (hends : ∀ e, (buildAll w o named { registry := before }).1 = .error e → e = .interrupted)
    (file : String)
    (hb : (buildAll w o named { registry := before }).2.isBuilding file = true) :
    before.registry.isBuilding file = true := by
  have hstart : Cared before { registry := before } := fun file hb => .inl hb
  have hrun := leads_buildEach_cared hw o (named.map (Path.resolve ⟨.root, w.before.cwd⟩)) hstart
  unfold buildAll attempt at hends hb
  unfold Leads at hrun
  rcases hr : (buildEach w o (named.map (Path.resolve ⟨.root, w.before.cwd⟩))).run
    { registry := before } with ⟨e | _, s'⟩ <;> simp only [hr] at hrun hends hb
  · obtain rfl : e = .interrupted := by
      cases e with
      | interrupted => rfl
      | _ => exact hends _ rfl
    have hgiven : Leads (forAll (giveUp w) s'.unsettled) s' (fun _ => Within before [])
        fun _ => False :=
      leads_forAll (I := Within before) (fun p _ _ => leads_giveUp hw) hrun
    unfold Leads at hgiven
    rcases hg : (forAll (giveUp w) s'.unsettled).run s' with ⟨_ | _, s₂⟩ <;>
      simp only [hg] at hgiven hb
    exact (hgiven file hb).resolve_right (by simp)
  · obtain ⟨hcared, hnil⟩ := hrun
    exact (hcared file hb).resolve_right (by simp [hnil])

/-- The user interrupts as the second of two documents is settled; both are given up or done. -/
theorem not_left_building_of_interrupt :
    let path (name : String) : Path := ⟨.root, [name.toList]⟩
    let w : World :=
      { before := {}
        after := {}
        refusal := fun _ => none
        exit := fun _ => 1
        elapsed := fun _ => 0
        readings := [⟨path "b.tex", .output, none⟩, ⟨path "b.tex", .errors, none⟩]
        interrupts := fun n => n matches .failed .. }
    let r := buildAll w {} [path "a.tex", path "b.tex"] { registry := ⟨{}, ⟨[], 0⟩⟩ }
    (Patient w ∧ ∀ e, r.1 = .error e → e = .interrupted) ∧ r.2.jobs.length = 2 ∧
      r.1 = .error .interrupted ∧ ∀ file, r.2.isBuilding file = false := by
  intro path w r
  have hw : Patient w := ⟨fun _ => rfl, fun _ => rfl, fun _ => rfl⟩
  have hr : r.1 = .error .interrupted := stop?_eq_some (by decide +kernel)
  have hends (e : Stop) (he : r.1 = .error e) : e = .interrupted := by
    rw [hr] at he
    exact (Except.error.inj he).symm
  refine ⟨⟨hw, hends⟩, by decide +kernel, hr, fun file => Bool.eq_false_iff.mpr fun hb => ?_⟩
  have := not_left_building hw {} [path "a.tex", path "b.tex"] ⟨{}, ⟨[], 0⟩⟩ hends file hb
  cases this

/-- The user interrupts before a tool has ended, as the session listens to the pipes. -/
example :
    let path (name : String) : Path := ⟨.root, [name.toList]⟩
    let w : World :=
      { before := {}
        after := {}
        refusal := fun _ => none
        exit := fun _ => 0
        elapsed := fun _ => 0
        readings := [⟨path "b.tex", .output, none⟩]
        interruptsWait := true }
    let r := buildAll w {} [path "a.tex", path "b.tex"] { registry := ⟨{}, ⟨[], 0⟩⟩ }
    stop? r.1 = some .interrupted ∧ r.2.isBuilding "/a.tex" = false ∧
      r.2.isBuilding "/b.tex" = false := by
  decide +kernel

/-- If the user interrupts as the registry tells of the start of a document, its tool has not been
started yet, and nobody gives its build up. A path without a file name stops the session as its
build is to be completed, and then nothing is given up. -/
theorem left_building :
    let w : World :=
      { before := {}
        after := {}
        refusal := fun _ => none
        exit := fun _ => 0
        elapsed := fun _ => 0
        readings := [⟨⟨.root, []⟩, .output, none⟩, ⟨⟨.root, []⟩, .errors, none⟩] }
    let before : Session := { registry := ⟨{}, ⟨[], 0⟩⟩ }
    let hasty : World := { w with interrupts := fun n => n matches .started _ }
    let interrupted := buildAll hasty {} [⟨.root, ["a.tex".toList]⟩] before
    let nameless := buildAll w {} [⟨.root, ["a.tex".toList]⟩, ⟨.root, []⟩] before
    before.isBuilding "/a.tex" = false ∧
      (stop? interrupted.1 = some .interrupted ∧ interrupted.2.isBuilding "/a.tex" = true) ∧
      stop? nameless.1 = some .nameless ∧ nameless.2.isBuilding "/" = true ∧
        nameless.2.isBuilding "/a.tex" = true := by
  decide +kernel

end Build

end Typeset
