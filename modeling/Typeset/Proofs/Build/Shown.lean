import Typeset.Proofs.Build.Once

/-!
# What a build shows

A build that fails always shows an error: those of its log or, if the log has none, one about the
document as a whole. A tool that claims to have succeeded shows what its log says, and has succeeded
if the log can be read. If a signal has ended the tool, nothing is shown.

The registry publishes what the outcome has, once, and whatever the session's interpreter has read
before, the diagnostics of a log are those that a fresh one finds in it. Only the user can stop the
completion of a tool whose document has a file name.

## Main definitions

* `Build.Heeds`: only the user stops a step
* `Build.published`: what the registry published, among notices
* `Build.logDiagnostics`: what a fresh interpreter finds in the log of a document
* `Build.Shows`: the diagnostics of an outcome fit the exit code and the log

## Main results

* `Build.heeds_complete`: a tool is completed unless the user interrupts
* `Build.published_noticesFrom`: operations publish what they say
* `Build.shows_verdictOn`: a verdict fits the exit code and the log
* `Build.failed_build_shows_error`: what is published is what the outcomes show
-/

namespace Typeset

open Registry (Notice Operation Timed)

namespace Build

variable {α β : Type} {w : World} {s s' : Session} {p : Path} {j : Job} {d : Deeds}

/-! ## Steps that only the user stops -/

/-- If the step is stopped, the user has interrupted it at the notice delivered last. -/
def Heeds (w : World) (x : Run α) : Prop :=
  ∀ s e s', x.run s = (.error e, s') →
    e = .interrupted ∧ ∃ n, s'.notices.getLast? = some n ∧ w.interrupts n = true

theorem Heeds.bind {x : Run α} {f : α → Run β} (hx : Heeds w x) (hf : ∀ a, Heeds w (f a)) :
    Heeds w (x >>= f) := by
  intro s e s' h
  rw [run_bind] at h
  rcases hr : x.run s with ⟨e₁ | a, s₁⟩ <;> rw [hr] at h
  · cases h
    exact hx s e s' hr
  · exact hf a s₁ e s' h

theorem heeds_pure (a : α) : Heeds w (pure a) := fun _ _ _ h => nomatch h

theorem heeds_get : Heeds w get := fun _ _ _ h => nomatch h

theorem heeds_modify (g : Session → Session) : Heeds w (modify g) := fun _ _ _ h => nomatch h

theorem heeds_remark (r : Remark) : Heeds w (remark r) := heeds_modify _

theorem heeds_tell (p : Progress) : Heeds w (tell p) := heeds_remark _

theorem heeds_settle (document : Path) (o : Outcome) : Heeds w (settle document o) :=
  heeds_modify _

/-- The notice at which the user interrupts is the last one. -/
theorem heeds_deliver (w : World) (ns : List Notice) : Heeds w (deliver w ns) := by
  induction ns with
  | nil => exact heeds_pure ()
  | cons n ns ih =>
    intro s e s' h
    by_cases hn : w.interrupts n
    · rw [deliver, if_pos hn] at h
      cases h
      exact ⟨rfl, n, by simp, hn⟩
    · rw [deliver, if_neg hn] at h
      exact ih _ e s' h

theorem heeds_operate (w : World) (op : Operation) : Heeds w (operate w op) :=
  heeds_get.bind fun _ => (heeds_modify _).bind fun _ => heeds_deliver w _

theorem heeds_readLog (document logPath : Path) : Heeds w (readLog w document logPath) := by
  unfold readLog
  split
  · exact heeds_pure _
  · exact heeds_get.bind fun _ => (heeds_modify _).bind fun _ => heeds_pure _

theorem heeds_require {x : Option α} (h : x.isSome) : Heeds w (require x) := by
  obtain ⟨a, rfl⟩ := Option.isSome_iff_exists.mp h
  exact heeds_pure a

theorem heeds_announce (w : World) (v : Verdict) : Heeds w (announce w v) :=
  announce_induction w v (heeds_pure ()) .bind heeds_remark fun op _ => heeds_operate w op

theorem isSome_logPath? (hname : p.name ≠ []) : (Latexmk.logPath? p).isSome := by
  simp [Latexmk.logPath?, Path.withSuffix?, hname]

theorem isSome_pdfPath? (hname : p.name ≠ []) : (Latexmk.pdfPath? p).isSome := by
  simp [Latexmk.pdfPath?, Path.withSuffix?, hname]

/-- A tool is completed unless the user interrupts. -/
theorem heeds_complete (w : World) (hname : j.document.name ≠ []) : Heeds w (complete w j) := by
  unfold complete
  refine (heeds_require (isSome_pdfPath? hname)).bind fun _ => ?_
  split
  · exact (heeds_operate w _).bind fun _ => (heeds_tell _).bind fun _ => heeds_settle _ _
  · exact (heeds_require (isSome_logPath? hname)).bind fun _ => (heeds_readLog _ _).bind fun _ =>
      (heeds_announce w _).bind fun _ => heeds_settle _ _

/-! ## What is published -/

/-- What the registry published, among notices: diagnostics with the document that they are for. -/
def published (ns : List Notice) : List (String × List Diagnostic) :=
  ns.filterMap fun
    | .diagnosticsUpdated file ds => some (file, ds)
    | _ => none

/-- What an operation publishes. -/
def publication? : Operation → Option (String × List Diagnostic)
  | .publish file ds => some (file, ds)
  | _ => none

@[simp] theorem published_append (ns ns' : List Notice) :
    published (ns ++ ns') = published ns ++ published ns' := List.filterMap_append

theorem published_perform (t : Timed) (op : Operation) :
    published (noticesOf (t.perform op).2) = (publication? op).toList := by
  cases op with
  | reset file => cases file <;> rfl
  | _ => rfl

/-- Operations publish what they say, one after another. -/
theorem published_noticesFrom (t : Timed) (ops : List Operation) :
    published (noticesFrom t ops) = ops.filterMap publication? := by
  induction ops generalizing t with
  | nil => rfl
  | cons op ops ih =>
    rw [noticesFrom, published_append, published_perform, ih]
    cases h : publication? op <;> simp [h]

theorem Deeds.Done.published (hd : d.Done s s') :
    published s'.notices = Build.published s.notices ++ d.ops.filterMap publication? := by
  rw [hd.notices, published_append, published_noticesFrom]

/-! ## What an outcome shows -/

/-- The log of a document, if it can be read. -/
def logText (w : World) (document : Path) : Option Text :=
  (Latexmk.logPath? document).bind fun path => (w.after.readText path).toOption

/-- What a fresh interpreter finds in the log of a document; nothing if it cannot be read. -/
def logDiagnostics (w : World) (document : Path) : List Diagnostic :=
  match logText w document with
  | some log => (({} : Log.Interpreter).read document log).diagnostics
  | none => []

/-- The diagnostics of an outcome fit the exit code of the document's tool and its log. -/
structure Shows (w : World) (document : Path) (o : Outcome) : Prop where
  /-- A tool that failed shows its log, and an error about the document if the log has none. -/
  failed : 0 < w.exit document →
    o.diagnostics = logDiagnostics w document ++
      (if Diagnostic.hasErrors (logDiagnostics w document) then []
        else [criticalError document (w.exit document)]) ∧
    ∃ d ∈ o.diagnostics, d.severity = .error
  /-- A tool that claims to have succeeded shows its log, and has succeeded if there is one. -/
  claimed : w.exit document = 0 → o.diagnostics = logDiagnostics w document ∧
    (o.status = .success ↔ (logText w document).isSome)
  /-- A tool that a signal has ended shows nothing. -/
  killed : w.exit document < 0 → o.diagnostics = []

theorem logReport_toOption {logPath : Path} (hlog : Latexmk.logPath? p = some logPath) :
    (logReport w p logPath).toOption = (logText w p).map (Log.read p) := by
  rw [logReport, logText, hlog, Option.bind_some]
  cases w.after.readText logPath <;> rfl

/-- What the report of a log has is what a fresh interpreter finds. -/
theorem diagnostics_logReport {logPath : Path} (hlog : Latexmk.logPath? p = some logPath) :
    ((logReport w p logPath).toOption.map Log.Report.diagnostics).getD [] =
      logDiagnostics w p := by
  rw [logReport_toOption hlog, logDiagnostics]
  cases logText w p with
  | none => rfl
  | some log =>
    exact (congrArg Log.Report.diagnostics (Log.Interpreter.read_report {} p log)).symm

theorem diagnostics_shown (document : Path) (exit : Int) (ds : List Diagnostic) :
    shownDiagnostics document exit ds =
      ds ++ if Diagnostic.hasErrors ds then [] else [criticalError document exit] := by
  unfold shownDiagnostics
  split <;> simp

theorem exists_error_shownDiagnostics (document : Path) (exit : Int) (ds : List Diagnostic) :
    ∃ d ∈ shownDiagnostics document exit ds, d.severity = .error := by
  simpa [Diagnostic.hasErrors, Diagnostic.isError] using
    hasErrors_shownDiagnostics document exit ds

/-- A verdict fits the exit code and the log. Without a log nothing is found, and a claim of the
tool to have succeeded is not believed. -/
theorem shows_verdictOn (w : World) (hname : j.document.name ≠ [])
    (hexit : ¬ w.exit j.document < 0) : Shows w j.document (verdictOn w j).outcome := by
  obtain ⟨logPath, hlog⟩ := Option.isSome_iff_exists.mp (isSome_logPath? hname)
  have hds : ((logReport w j.document logPath).toOption.map Log.Report.diagnostics).getD [] =
      logDiagnostics w j.document := diagnostics_logReport hlog
  have hreadable : (logReport w j.document logPath).toOption.isSome =
      (logText w j.document).isSome := by
    rw [logReport_toOption hlog, Option.isSome_map]
  unfold verdictOn judge
  rw [hlog, Option.getD_some]
  by_cases hzero : w.exit j.document = 0
  · refine ⟨fun h => absurd h (by omega), fun _ => ?_, fun h => absurd h hexit⟩
    rw [if_pos hzero, ← hds, ← hreadable]
    cases logReport w j.document logPath with
    | ok r => exact ⟨rfl, iff_of_true rfl rfl⟩
    | error e => exact ⟨rfl, iff_of_false nofun nofun⟩
  · refine ⟨fun _ => ?_, fun h => absurd h hzero, fun h => absurd h hexit⟩
    rw [if_neg hzero, ← hds]
    exact ⟨diagnostics_shown _ _ _, exists_error_shownDiagnostics _ _ _⟩

/-! ## What a session shows -/

/-- What the registry publishes of an outcome: nothing of a document that was left alone, or of one
whose tool a signal has ended. -/
def shown? (e : Path × Outcome) : Option (String × List Diagnostic) :=
  match e.2.status with
  | .success | .error => some (e.1.str, e.2.diagnostics)
  | .idle | .building => none

/-- An outcome fits the exit code and the log of the document's tool, and it is published unless a
signal has ended the tool. -/
def Displays (w : World) (document : Path) (o : Outcome) : Prop :=
  Shows w document o ∧ shown? (document, o) =
    if w.exit document < 0 then none else some (document.str, o.diagnostics)

theorem shown?_verdictOn (w : World) (j : Job) :
    shown? (j.document, (verdictOn w j).outcome) =
      some (j.document.str, (verdictOn w j).outcome.diagnostics) := by
  obtain ⟨-, -, ⟨hstatus, -⟩ | ⟨hstatus, -⟩⟩ := verdictOn_cases w j <;> simp only [shown?, hstatus]

theorem filterMap_announce {v : Verdict} :
    (Deeds.announce v).ops.filterMap publication? =
      [(v.outcome.file.str, v.outcome.diagnostics)] := by
  simp only [Deeds.announce, Verdict.operation]
  cases v.outcome.error <;> rfl

/-- The outcome of a tool that is completed is published as it is displayed. If a signal ended it,
neither log nor exit code is looked at. -/
theorem exists_outcome_complete (w : World) (j : Job) :
    ∃ o, (Deeds.complete w j).outcomes = [(j.document, o)] ∧
      (Deeds.complete w j).ops.filterMap publication? = (shown? (j.document, o)).toList ∧
      (j.document.name ≠ [] → Displays w j.document o) := by
  unfold Deeds.complete
  by_cases hexit : w.exit j.document < 0
  · rw [if_pos hexit]
    refine ⟨_, rfl, rfl, fun _ => ⟨⟨fun h => ?_, fun h => ?_, fun _ => rfl⟩, (if_pos hexit).symm⟩⟩
    · omega
    · omega
  · rw [if_neg hexit]
    refine ⟨_, rfl, ?_, fun hname => ⟨shows_verdictOn w hname hexit, ?_⟩⟩
    · rw [Deeds.judged, Deeds.ops_append, List.filterMap_append, filterMap_announce,
        (verdictOn_cases w j).1, shown?_verdictOn]
      rfl
    · rw [shown?_verdictOn, if_neg hexit]

/-- What is published is what the outcomes show, and every outcome of a tool is displayed. -/
structure Displayed (w : World) (s : Session) : Prop where
  published : published s.notices = s.outcomes.filterMap shown?
  displays : ∀ e ∈ s.outcomes, s.Started e.1 → e.1.name ≠ [] → Displays w e.1 e.2

theorem Displayed.of_nil (w : World) (hnotices : s.notices = []) (houtcomes : s.outcomes = []) :
    Displayed w s := ⟨by rw [hnotices, houtcomes]; rfl, by simp [houtcomes]⟩

/-- What is published with an outcome is what it shows. -/
theorem Deeds.Done.published_settle {o : Outcome} (hd : d.Done s s')
    (hs : Build.published s.notices = s.outcomes.filterMap shown?) (ho : d.outcomes = [(p, o)])
    (hops : d.ops.filterMap publication? = (shown? (p, o)).toList) :
    Build.published s'.notices = s'.outcomes.filterMap shown? := by
  rw [hd.published, hd.outcomes, ho, List.filterMap_append, hs, hops]
  cases h : shown? (p, o) <;> simp [h]

/-- A document that is begun has an outcome without a tool, or a tool without an outcome. -/
theorem Displayed.begins (hs : Displayed w s) (hk : ¬ s.knows p)
    (hbegins : Deeds.Begins w s p d) (hd : d.Done s s') : Displayed w s' := by
  have hsingle := hbegins.single
  rw [Session.knows_iff, not_or, Classical.not_not] at hk
  obtain ⟨houtcome, hjob⟩ := hk
  constructor
  · cases hbegins with
    | skip _ => exact hd.published_settle hs.published rfl rfl
    | refuse _ _ _ => exact hd.published_settle hs.published rfl rfl
    | run _ _ command =>
      have hops : (Deeds.start p command ++ Deeds.run p).ops.filterMap publication? = [] := rfl
      have houtcomes : (Deeds.start p command ++ Deeds.run p).outcomes = [] := rfl
      rw [hd.published, hd.outcomes, hops, houtcomes, List.append_nil, List.append_nil,
        hs.published]
  · intro e he hstarted hname
    rw [hd.outcomes] at he
    rcases hsingle.either with ⟨hnil, -⟩ | ⟨hnil, o, ho, -⟩
    · rw [hnil, List.append_nil] at he
      have hne : e.1 ≠ p := fun h =>
        Session.lookup_outcomes_eq_none.mp houtcome (h ▸ List.mem_map_of_mem he)
      exact hs.displays e he ((hd.started_iff_of_ne hsingle.about hne).mp hstarted) hname
    · rw [Session.Started, hd.jobs, hnil, List.append_nil] at hstarted
      rw [ho] at he
      rcases List.mem_append.mp he with he | he
      · exact hs.displays e he hstarted hname
      · obtain rfl := List.mem_singleton.mp he
        exact absurd hstarted hjob

/-- A tool that is completed has an outcome that is displayed and published. -/
theorem Displayed.completes (hs : Displayed w s) (hd : (Deeds.complete w j).Done s s') :
    Displayed w s' := by
  obtain ⟨o, ho, hops, hdisplays⟩ := exists_outcome_complete w j
  obtain ⟨hjobs, -⟩ := Deeds.complete_outcome w j
  refine ⟨hd.published_settle hs.published ho hops, fun e he hstarted hname => ?_⟩
  rw [hd.outcomes, ho] at he
  rcases List.mem_append.mp he with he | he
  · refine hs.displays e he ?_ hname
    rwa [Session.Started, hd.jobs, hjobs, List.append_nil] at hstarted
  · obtain rfl := List.mem_singleton.mp he
    exact hdisplays hname

/-- **A failed build shows an error.** The completion of a tool whose document has a file name is
stopped by the user only. Otherwise the outcome shows what fits the exit code and the log, whatever
was built before, and just this is published once, unless a signal has ended the tool.

When a session returns, the registry has published what the outcomes show and nothing else, once for
each document, and the outcome of every tool is of this kind. -/
theorem failed_build_shows_error (w : World) (job : Job) (hname : job.document.name ≠ [])
    (s : Session) :
    let p := job.document
    let c := criticalError p (w.exit p)
    (c.severity = .error ∧ c.startRow = 0 ∧ c.location.path = p) ∧
      (∃ o, Shows w p o ∧
        match (complete w job).run s with
        | (.ok _, s') => s'.outcomes = s.outcomes ++ [(p, o)] ∧
            published s'.notices = published s.notices ++
              if w.exit p < 0 then [] else [(p.str, o.diagnostics)]
        | (.error e, s') => e = .interrupted ∧
            ∃ n, s'.notices.getLast? = some n ∧ w.interrupts n = true) ∧
      ∀ o named before interpreter outcomes s',
        buildAll w o named { registry := before, interpreter := interpreter } =
          (.ok outcomes, s') →
        (s'.outcomes.map Prod.fst).Nodup ∧
          published s'.notices = s'.outcomes.filterMap shown? ∧
          ∀ o, (p, o) ∈ s'.outcomes → s'.Started p → Displays w p o := by
  intro p c
  obtain ⟨o, ho, hops, hdisplays⟩ := exists_outcome_complete w job
  obtain ⟨hshows, hshown⟩ := hdisplays hname
  refine ⟨⟨rfl, rfl, rfl⟩, ⟨o, hshows, ?_⟩, ?_⟩
  · have hdone := performs_complete w job s
    rw [Leads] at hdone
    rcases hr : (complete w job).run s with ⟨e | _, s'⟩ <;> rw [hr] at hdone
    · exact heeds_complete w hname s e s' hr
    · refine ⟨by rw [hdone.outcomes, ho], ?_⟩
      rw [hdone.published, hops, hshown]
      split <;> rfl
  · intro o named before interpreter outcomes s' hok
    obtain ⟨hrun, -⟩ := buildAll_eq_ok hok
    have hend := buildEach_induction (P := Displayed w) w o
      (fun p todo s s' d _ hk hs => hs.begins hk) (fun j watched ended s s' _ hs => hs.completes)
      (s := { registry := before, interpreter := interpreter })
      (.of_nil rfl rfl (named.map (Path.resolve ⟨.root, w.before.cwd⟩))) (.of_nil w rfl rfl)
    rw [Leads, hrun] at hend
    obtain ⟨honce, -, -, hdisplayed⟩ := hend
    exact ⟨honce.outcomes, hdisplayed.published, fun o ho hstarted =>
      hdisplayed.displays (p, o) ho hstarted hname⟩

/-- A tool fails, and its log has a warning but no error. The session has read another log
before. -/
theorem failed_build_shows_error_of_warning :
    let job : Job := { document := ⟨.root, ["w".toList, "a.tex".toList]⟩ }
    let log := "This is pdfTeX\nLaTeX Warning: Citation undefined on input line 3.\n\n"
    let w : World :=
      { before := {}
        after :=
          { nodes :=
              [(["w".toList], .directory), (["w".toList, "a.log".toList], .file log.toUTF8)] }
        refusal := fun _ => none
        exit := fun _ => 12
        elapsed := fun _ => 0
        readings := [] }
    let s : Session :=
      { registry := ⟨{}, ⟨[], 0⟩⟩
        interpreter := { diagnostics := [criticalError ⟨.root, ["b.tex".toList]⟩ 1] } }
    job.document.name ≠ [] ∧ ∃ o s', (complete w job).run s = (.ok (), s') ∧
      o.diagnostics.map Diagnostic.severity = [.warning, .error] ∧
      o.diagnostics.map Diagnostic.startRow = [2, 0] ∧
      s'.outcomes = [(job.document, o)] ∧ published s'.notices = [("/w/a.tex", o.diagnostics)] := by
  intro job log w s
  have hname : job.document.name ≠ [] := by decide
  obtain ⟨-, ⟨o, hshows, hmatch⟩, -⟩ := failed_build_shows_error w job hname s
  have hok : ((complete w job).run s).1.isOk = true := by decide +kernel
  rcases hr : (complete w job).run s with ⟨_ | _, s'⟩ <;> rw [hr] at hok hmatch
  · cases hok
  · obtain ⟨hdiagnostics, -⟩ := hshows.failed (by decide)
    refine ⟨hname, o, s', rfl, ?_, ?_, hmatch.1, hmatch.2⟩
    · rw [hdiagnostics]
      decide +kernel
    · rw [hdiagnostics]
      decide +kernel

end Build

end Typeset
