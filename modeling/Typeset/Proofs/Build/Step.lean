import Typeset.Build.Run

/-!
# What a step of a session does

A step of a session returns, or it is stopped. Of a step that returns one can tell without the
session what it adds to it: the operations on the registry, the remarks, the tools that it starts
and the outcomes. What a sequence of steps adds is what the steps add, one after another.

## Main definitions

* `Build.Leads`: what holds when a step returns, and what holds when it is stopped
* `Build.Deeds`: what a step adds to a session
* `Build.Performs`: a step adds these, if it returns

## Main results

* `Build.Leads.bind`, `Build.leads_forAll`: one step after another
* `Build.performs_skip`, `Build.performs_launch`, `Build.leads_begin`, `Build.performs_complete`:
  what is added for a document
-/

namespace Typeset.Build

open Registry (Notice Operation Timed)

variable {α β : Type}

/-! ## Steps that return and steps that are stopped -/

/-- If the step returns, the value and the session satisfy `Q`; if it is stopped, the session
satisfies `E`. -/
def Leads (x : Run α) (s : Session) (Q : α → Session → Prop) (E : Session → Prop) : Prop :=
  match x.run s with
  | (.ok a, s') => Q a s'
  | (.error _, s') => E s'

theorem run_bind (x : Run α) (f : α → Run β) (s : Session) :
    (x >>= f).run s =
      match x.run s with
      | (.ok a, s') => (f a).run s'
      | (.error e, s') => (.error e, s') := by
  change (match x.run s with | (r, s') => ExceptT.bindCont f r s' : Except Stop β × Session) = _
  rcases x.run s with ⟨_ | a, s'⟩ <;> rfl

namespace Leads

variable {x : Run α} {f : α → Run β} {s : Session} {Q Q' : α → Session → Prop}
  {E E' : Session → Prop}

theorem mono (h : Leads x s Q' E') (hQ : ∀ a s', Q' a s' → Q a s') (hE : ∀ s', E' s' → E s') :
    Leads x s Q E := by
  unfold Leads at h ⊢
  rcases hr : x.run s with ⟨_ | a, s'⟩ <;> rw [hr] at h
  · exact hE s' h
  · exact hQ a s' h

theorem and (h : Leads x s Q E) (h' : Leads x s Q' E') :
    Leads x s (fun a s' => Q a s' ∧ Q' a s') fun s' => E s' ∧ E' s' := by
  unfold Leads at h h' ⊢
  rcases hr : x.run s with ⟨_ | a, s'⟩ <;> rw [hr] at h h' <;> exact ⟨h, h'⟩

theorem bind {R : β → Session → Prop} (h : Leads x s (fun a s' => Leads (f a) s' R E) E) :
    Leads (x >>= f) s R E := by
  unfold Leads at h ⊢
  rw [run_bind]
  rcases hr : x.run s with ⟨_ | a, s'⟩ <;> rw [hr] at h <;> exact h

/-- What is known when the first step returns is all that the second one needs. -/
theorem andThen {R : β → Session → Prop} (h : Leads x s Q E)
    (hf : ∀ a s', Q a s' → Leads (f a) s' R E) : Leads (x >>= f) s R E :=
  .bind (h.mono hf fun _ h => h)

end Leads

theorem leads_pure {a : α} {s : Session} {Q : α → Session → Prop} {E : Session → Prop}
    (h : Q a s) : Leads (pure a) s Q E := h

theorem leads_throw {e : Stop} {s : Session} {Q : α → Session → Prop} {E : Session → Prop}
    (h : E s) : Leads (throw e) s Q E := h

theorem leads_modify {g : Session → Session} {s : Session} {Q : Unit → Session → Prop}
    {E : Session → Prop} (h : Q () (g s)) : Leads (modify g) s Q E := h

theorem leads_get {s : Session} {Q : Session → Session → Prop} {E : Session → Prop} (h : Q s s) :
    Leads get s Q E := h

/-- An assertion about the items that are still to come, carried from one item to the next. -/
theorem leads_forAll {step : α → Run Unit} {I : List α → Session → Prop} {E : Session → Prop}
    (hstep : ∀ a as s, I (a :: as) s → Leads (step a) s (fun _ => I as) E) {as : List α}
    {s : Session} (hs : I as s) : Leads (forAll step as) s (fun _ => I []) E := by
  induction as generalizing s with
  | nil => exact leads_pure hs
  | cons a as ih => exact (hstep a as s hs).andThen fun _ _ => ih

/-! ## Operations and notices -/

/-- Notices are delivered until the user interrupts; nothing else changes. Those that are left are
lost. -/
theorem leads_deliver (w : World) (ns : List Notice) (s : Session) :
    Leads (deliver w ns) s (fun _ s' => s' = { s with notices := s.notices ++ ns })
      (fun s' => s' = { s with notices := s'.notices } ∧ ∃ n ∈ ns, w.interrupts n) := by
  induction ns generalizing s with
  | nil => exact leads_pure (by rw [List.append_nil])
  | cons n ns ih =>
    refine .bind (leads_modify ?_)
    by_cases hn : w.interrupts n
    · rw [if_pos hn]
      exact .bind (leads_throw ⟨rfl, n, List.mem_cons_self, hn⟩)
    · rw [if_neg hn]
      refine .bind (leads_pure ((ih _).mono (fun _ s' hs => ?_) fun s' ⟨hs, m, hm, hi⟩ => ?_))
      · rw [hs, List.append_assoc]
        rfl
      · exact ⟨by rw [hs], m, List.mem_cons_of_mem _ hm, hi⟩

/-- An operation changes the registry, whether the user interrupts its notices or not. -/
theorem leads_operate (w : World) (op : Operation) (s : Session) :
    let registry := (s.registry.perform op).1
    Leads (operate w op) s
      (fun _ s' => s' =
        { s with
          registry := registry
          notices := s.notices ++ noticesOf (s.registry.perform op).2 })
      (fun s' => s' = { s with registry := registry, notices := s'.notices } ∧
        ∃ n ∈ noticesOf (s.registry.perform op).2, w.interrupts n) :=
  .bind (leads_get (.bind (leads_modify (leads_deliver w _ _))))

/-! ## What a step adds -/

/-- The notices of operations that are carried out one after another. -/
def noticesFrom : Timed → List Operation → List Notice
  | _, [] => []
  | t, op :: ops => noticesOf (t.perform op).2 ++ noticesFrom (t.perform op).1 ops

theorem noticesFrom_append (t : Timed) (ops ops' : List Operation) :
    noticesFrom t (ops ++ ops') =
      noticesFrom t ops ++ noticesFrom (ops.foldl (fun t op => (t.perform op).1) t) ops' := by
  induction ops generalizing t with
  | nil => rfl
  | cons op ops ih => simp only [List.cons_append, noticesFrom, ih, List.append_assoc,
      List.foldl_cons]

/-- What a step adds to a session. -/
structure Deeds where
  ops : List Operation := []
  remarks : List Remark := []
  jobs : List Job := []
  outcomes : List (Path × Outcome) := []

namespace Deeds

/-- One after another. -/
def append (d e : Deeds) : Deeds where
  ops := d.ops ++ e.ops
  remarks := d.remarks ++ e.remarks
  jobs := d.jobs ++ e.jobs
  outcomes := d.outcomes ++ e.outcomes

instance : Append Deeds := ⟨append⟩

@[simp] theorem ops_append (d e : Deeds) : (d ++ e).ops = d.ops ++ e.ops := rfl

@[simp] theorem remarks_append (d e : Deeds) : (d ++ e).remarks = d.remarks ++ e.remarks := rfl

@[simp] theorem jobs_append (d e : Deeds) : (d ++ e).jobs = d.jobs ++ e.jobs := rfl

@[simp] theorem outcomes_append (d e : Deeds) : (d ++ e).outcomes = d.outcomes ++ e.outcomes := rfl

/-- The second session is the first one with these added. -/
structure Done (d : Deeds) (s s' : Session) : Prop where
  registry : s'.registry = d.ops.foldl (fun t op => (t.perform op).1) s.registry
  notices : s'.notices = s.notices ++ noticesFrom s.registry d.ops
  remarks : s'.remarks = s.remarks ++ d.remarks
  jobs : s'.jobs = s.jobs ++ d.jobs
  outcomes : s'.outcomes = s.outcomes ++ d.outcomes

theorem Done.trans {d e : Deeds} {s s' s'' : Session} (h : d.Done s s') (h' : e.Done s' s'') :
    (d ++ e).Done s s'' where
  registry := by rw [h'.registry, h.registry, ops_append, List.foldl_append]
  notices := by
    rw [h'.notices, h.notices, h.registry, ops_append, noticesFrom_append, List.append_assoc]
  remarks := by rw [h'.remarks, h.remarks, remarks_append, List.append_assoc]
  jobs := by rw [h'.jobs, h.jobs, jobs_append, List.append_assoc]
  outcomes := by rw [h'.outcomes, h.outcomes, outcomes_append, List.append_assoc]

end Deeds

/-- If the step returns, it has added these. -/
def Performs (x : Run α) (d : Deeds) : Prop :=
  ∀ s, Leads x s (fun _ => d.Done s) fun _ => True

theorem Performs.bind {x : Run α} {f : α → Run β} {d e : Deeds} (hx : Performs x d)
    (hf : ∀ a, Performs (f a) e) : Performs (x >>= f) (d ++ e) := fun s =>
  (hx s).andThen fun a s' hs => (hf a s').mono (fun _ _ hs' => hs.trans hs') fun _ h => h

theorem Performs.of_eq {x : Run α} {d e : Deeds} (h : Performs x d) (hd : d = e) : Performs x e :=
  hd ▸ h

theorem performs_pure (a : α) : Performs (pure a) {} := fun _ =>
  leads_pure ⟨rfl, (List.append_nil _).symm, (List.append_nil _).symm, (List.append_nil _).symm,
    (List.append_nil _).symm⟩

theorem performs_operate (w : World) (op : Operation) : Performs (operate w op) { ops := [op] } :=
  fun s => (leads_operate w op s).mono
    (fun _ s' hs => by
      rw [hs]
      refine ⟨rfl, ?_, (List.append_nil _).symm, (List.append_nil _).symm,
        (List.append_nil _).symm⟩
      exact congrArg (s.notices ++ ·) (List.append_nil _).symm)
    fun _ _ => trivial

theorem performs_remark (r : Remark) : Performs (remark r) { remarks := [r] } := fun _ =>
  leads_modify ⟨rfl, (List.append_nil _).symm, rfl, (List.append_nil _).symm,
    (List.append_nil _).symm⟩

theorem performs_tell (p : Progress) : Performs (tell p) { remarks := [.progress p] } :=
  performs_remark _

theorem performs_remarkAll (rs : List Remark) : Performs (remarkAll rs) { remarks := rs } := by
  induction rs with
  | nil => exact performs_pure ()
  | cons r rs ih => exact (performs_remark r).bind fun _ => ih

theorem performs_settle (document : Path) (o : Outcome) :
    Performs (settle document o) { outcomes := [(document, o)] } := fun _ =>
  leads_modify ⟨rfl, (List.append_nil _).symm, (List.append_nil _).symm,
    (List.append_nil _).symm, rfl⟩

/-- A step that goes on with what it requires goes on with what there is. -/
theorem performs_require_bind {x : Option α} {f : α → Run β} {d : Deeds}
    (hf : ∀ a, x = some a → Performs (f a) d) : Performs (require x >>= f) d := by
  intro s
  cases x with
  | none => exact .bind (leads_throw trivial)
  | some a => exact .bind (leads_pure (hf a rfl s))

/-! ## What is added for a document -/

/-- The outcome of a document that is being built already. -/
def leftAlone (document : Path) : Outcome where
  file := document
  status := .building
  pdf := Latexmk.pdfPath? document

/-- What is added for a document that is being built already. -/
def Deeds.skip (document : Path) : Deeds where
  remarks :=
    [.alarm .warning ("Build already in progress for " ++ nameOf document ++ ".") [],
      .progress (.skipped (nameOf document) "already building")]
  outcomes := [(document, leftAlone document)]

theorem performs_skip (document : Path) : Performs (skip document) (.skip document) := by
  have hsettle : Performs
      (require (Latexmk.pdfPath? document) >>= fun pdf =>
        settle document { file := document, status := .building, pdf := some pdf })
      { outcomes := [(document, leftAlone document)] } := by
    refine performs_require_bind fun pdf hpdf => ?_
    rw [leftAlone, hpdf]
    exact performs_settle document _
  exact .of_eq ((performs_remark _).bind fun _ => (performs_tell _).bind fun _ => hsettle) rfl

namespace Refusal

/-- What the registry is told besides the short reason. -/
def detail (r : Refusal) : String :=
  "Make sure latexmk is installed and in your PATH. (" ++ r.failure.text ++ ")"

/-- The outcome of a document whose tool was not started. -/
def outcome (document : Path) (r : Refusal) : Outcome where
  file := document
  status := .error
  output := r.detail
  pdf := Latexmk.pdfPath? document
  error := some r.summary

end Refusal

/-- What is added for a document whose tool was not started. -/
def Deeds.refuse (document : Path) (r : Refusal) : Deeds where
  ops := [.fail document.str r.summary r.detail, .publish document.str []]
  remarks :=
    [.alarm .error ("Failed to run latexmk: " ++ r.summary) [r.failure],
      .progress (.failed (nameOf document) r.summary)]
  outcomes := [(document, r.outcome document)]

theorem performs_refuse (w : World) (document : Path) (r : Refusal) :
    Performs (refuse w document r) (.refuse document r) := by
  have hsettle : Performs
      (require (Latexmk.pdfPath? document) >>= fun pdf => settle document
        { file := document, status := .error, output := r.detail, pdf := some pdf,
          error := some r.summary })
      { outcomes := [(document, r.outcome document)] } := by
    refine performs_require_bind fun pdf hpdf => ?_
    rw [Refusal.outcome, hpdf]
    exact performs_settle document _
  exact .of_eq ((performs_operate w _).bind fun _ => (performs_operate w _).bind fun _ =>
    (performs_remark _).bind fun _ => (performs_tell _).bind fun _ => hsettle) rfl

/-- What is added for a document whose tool is called, whatever comes of it. -/
def Deeds.start (document : Path) (command : List String) : Deeds where
  ops := [.start document.str]
  remarks := [.progress (.started (nameOf document) command)]

/-- What is added for a document whose tool runs. -/
def Deeds.run (document : Path) : Deeds where
  jobs := [{ document := document }]

/-- The tool is called with some words; then it runs, or it was not started. -/
theorem performs_launch (w : World) (o : BuildOptions) (document : Path) :
    ∃ command, Performs (launch w o document)
      (.start document command ++
        ((w.refusal document).map (Deeds.refuse document)).getD (.run document)) := by
  rcases hd : Latexmk.detect w.before document with e | detected
  · refine ⟨[], fun s => .bind ?_⟩
    rw [commandFor, hd]
    exact leads_throw trivial
  · have hcommand : commandFor w o document =
        pure (Latexmk.command (Latexmk.chooseEngine detected o) o document) := by
      rw [commandFor, hd]
    refine ⟨Latexmk.command (Latexmk.chooseEngine detected o) o document, ?_⟩
    rw [launch, hcommand, pure_bind]
    cases w.refusal document with
    | none =>
      have hjob : Performs
          (modify fun s => { s with jobs := s.jobs ++ [{ document := document }] } : Run Unit)
          (.run document) := fun _ =>
        leads_modify ⟨rfl, (List.append_nil _).symm, (List.append_nil _).symm, rfl,
          (List.append_nil _).symm⟩
      exact .of_eq ((performs_operate w _).bind fun _ => (performs_tell _).bind fun _ => hjob) rfl
    | some r =>
      exact .of_eq ((performs_operate w _).bind fun _ => (performs_tell _).bind fun _ =>
        performs_refuse w document r) rfl

/-- What may be added for a document that is to be started and is not known: it is left alone,
because it is being built, or its tool is called, and then runs or was not started. -/
inductive Deeds.Begins (w : World) (s : Session) (document : Path) : Deeds → Prop where
  | skip (hb : s.registry.registry.isBuilding document.str = true) :
    Begins w s document (.skip document)
  | run (hb : s.registry.registry.isBuilding document.str = false)
    (hr : w.refusal document = none) (command : List String) :
    Begins w s document (.start document command ++ .run document)
  | refuse (hb : s.registry.registry.isBuilding document.str = false) {r : Refusal}
    (hr : w.refusal document = some r) (command : List String) :
    Begins w s document (.start document command ++ .refuse document r)

/-- A document that is known need not be started; one that is not is begun. -/
theorem leads_begin (w : World) (o : BuildOptions) (document : Path) (s : Session) :
    Leads (begin w o document) s
      (fun _ s' => s.knows document ∧ s' = s ∨
        ¬ s.knows document ∧ ∃ d, Deeds.Begins w s document d ∧ d.Done s s') fun _ => True := by
  refine .bind (leads_get ?_)
  by_cases hk : s.knows document
  · rw [if_pos hk]
    exact leads_pure (.inl ⟨hk, rfl⟩)
  · rw [if_neg hk]
    cases hb : s.registry.registry.isBuilding document.str with
    | true =>
      exact (performs_skip document s).mono (fun _ _ hd => .inr ⟨hk, _, .skip hb, hd⟩)
        fun _ h => h
    | false =>
      obtain ⟨command, hlaunch⟩ := performs_launch w o document
      refine (hlaunch s).mono (fun _ s' hd => .inr ⟨hk, _, ?_, hd⟩) fun _ h => h
      cases hr : w.refusal document with
      | none => exact .run hb hr command
      | some r => exact .refuse hb hr command

namespace Verdict

/-- The operation by which the registry learns of a verdict. -/
def operation (v : Verdict) : Operation :=
  match v.outcome.error with
  | none => .finish v.outcome.file.str v.outcome.output (some v.outcome.elapsed)
  | some error => .fail v.outcome.file.str error v.detail

/-- The progress that a verdict is. -/
def progress (v : Verdict) : Progress :=
  match v.outcome.error with
  | none => .finished (nameOf v.outcome.file) (some v.outcome.elapsed)
  | some error => .failed (nameOf v.outcome.file) error

end Verdict

/-- What is added for a verdict. -/
def Deeds.announce (v : Verdict) : Deeds where
  ops := [v.operation, .publish v.outcome.file.str v.outcome.diagnostics]
  remarks := (if v.outcome.error.isSome then v.alarms else []) ++ [.progress v.progress]

/-- The alarms come after the operation or before it, which makes the same deeds. -/
theorem performs_announce (w : World) (v : Verdict) : Performs (announce w v) (.announce v) := by
  cases he : v.outcome.error with
  | none =>
    simp only [announce, Deeds.announce, Verdict.operation, Verdict.progress, he]
    exact .of_eq ((performs_operate w _).bind fun _ => (performs_tell _).bind fun _ =>
      performs_operate w _) rfl
  | some error =>
    simp only [announce, Deeds.announce, Verdict.operation, Verdict.progress, he]
    split
    · exact .of_eq ((performs_operate w _).bind fun _ => (performs_remarkAll _).bind fun _ =>
        (performs_tell _).bind fun _ => performs_operate w _) rfl
    · exact .of_eq ((performs_remarkAll _).bind fun _ => (performs_operate w _).bind fun _ =>
        (performs_tell _).bind fun _ => performs_operate w _) rfl

/-- What remarks keep and the operations of a verdict, and steps one after another, its announcement
keeps. -/
theorem announce_induction {C : Run Unit → Prop} (w : World) (v : Verdict) (hpure : C (pure ()))
    (hbind : ∀ {x : Run Unit} {f : Unit → Run Unit}, C x → (∀ a, C (f a)) → C (x >>= f))
    (hremark : ∀ r, C (remark r)) (hoperate : ∀ op ∈ (Deeds.announce v).ops, C (operate w op)) :
    C (announce w v) := by
  have halarms (rs : List Remark) : C (remarkAll rs) := by
    induction rs with
    | nil => exact hpure
    | cons r rs ih => exact hbind (hremark r) fun _ => ih
  have hoperation : C (operate w v.operation) := hoperate _ List.mem_cons_self
  have hpublish : C (operate w (.publish v.outcome.file.str v.outcome.diagnostics)) :=
    hoperate _ (List.mem_cons_of_mem _ List.mem_cons_self)
  rw [Verdict.operation] at hoperation
  cases he : v.outcome.error with
  | none =>
    rw [he] at hoperation
    simp only [announce, he]
    exact hbind hoperation fun _ => hbind (hremark _) fun _ => hpublish
  | some error =>
    rw [he] at hoperation
    simp only [announce, he]
    split
    · exact hbind hoperation fun _ => hbind (halarms _) fun _ =>
        hbind (hremark _) fun _ => hpublish
    · exact hbind (halarms _) fun _ => hbind hoperation fun _ =>
        hbind (hremark _) fun _ => hpublish

/-- What a document's log says, if it can be read. -/
def logReport (w : World) (document logPath : Path) : Except FileError Log.Report :=
  (w.after.readText logPath).map (Log.read document)

/-- A step that goes on with what the interpreter makes of a log goes on with what the log says,
whatever was read before. -/
theorem performs_readLog_bind {w : World} {document logPath : Path}
    {f : Except FileError Log.Report → Run β} {d : Deeds}
    (hf : Performs (f (logReport w document logPath)) d) :
    Performs (readLog w document logPath >>= f) d := by
  intro s
  rw [logReport] at hf
  cases hlog : w.after.readText logPath with
  | error e =>
    rw [hlog] at hf
    rw [readLog, hlog]
    exact .bind (leads_pure (hf s))
  | ok log =>
    rw [hlog] at hf
    rw [readLog, hlog]
    refine .bind (.bind (leads_get (.bind (leads_modify (leads_pure ?_)))))
    rw [Log.Interpreter.read_report]
    exact (hf _).mono
      (fun _ _ hd => ⟨hd.registry, hd.notices, hd.remarks, hd.jobs, hd.outcomes⟩) fun _ h => h

/-- What is known of a tool that has ended before its log is read. -/
def ended (w : World) (job : Job) : Outcome where
  file := job.document
  status := .error
  exit := some (w.exit job.document)
  output := Text.str job.output
  elapsed := .real (w.elapsed job.document)
  pdf := Latexmk.pdfPath? job.document

/-- The verdict on a tool that ended by itself. -/
def verdictOn (w : World) (job : Job) : Verdict :=
  let logPath := (Latexmk.logPath? job.document).getD job.document
  judge (ended w job) logPath (w.exit job.document) (Text.str job.errors)
    (logReport w job.document logPath)

/-- What is added for a tool that a signal has ended. -/
def Deeds.signalled (w : World) (job : Job) : Deeds where
  ops := [.reset (some job.document.str)]
  remarks := [.progress (.interrupted (nameOf job.document))]
  outcomes := [(job.document, { ended w job with status := .idle, interrupted := true })]

/-- What is added for a tool that has ended by itself. -/
def Deeds.judged (w : World) (job : Job) : Deeds :=
  .announce (verdictOn w job) ++ { outcomes := [(job.document, (verdictOn w job).outcome)] }

/-- What is added for a tool that has ended. -/
def Deeds.complete (w : World) (job : Job) : Deeds :=
  if w.exit job.document < 0 then .signalled w job else .judged w job

theorem performs_complete (w : World) (job : Job) :
    Performs (complete w job) (.complete w job) := by
  unfold complete Deeds.complete
  refine performs_require_bind fun pdf hpdf => ?_
  split
  · rw [Deeds.signalled, ended, hpdf]
    exact .of_eq ((performs_operate w _).bind fun _ => (performs_tell _).bind fun _ =>
      performs_settle _ _) rfl
  · refine performs_require_bind fun logPath hlog => ?_
    rw [Deeds.judged, verdictOn, ended, hpdf, hlog]
    exact performs_readLog_bind ((performs_announce w _).bind fun _ => performs_settle _ _)

end Typeset.Build
