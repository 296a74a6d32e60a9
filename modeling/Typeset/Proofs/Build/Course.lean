import Typeset.Proofs.Build.Step
import Typeset.Proofs.Registry.Change

/-!
# The course of a session

A session deals with one document after another, and what it does for one leaves the others where
they stand. A document that is not dealt with yet stands as it stood before the session; one whose
tool runs has been announced; and one that is settled has an outcome, with which the registry and
what was told about the document agree.

Documents go by their file names when their progress is told, so it is told apart here by a log that
keeps the document with each piece of progress.

## Main definitions

* `Build.progressOf`, `Build.kindsOf`: the progress among remarks, and that of one document
* `Build.Agrees`: outcome, registry and progress of a document tell the same
* `Build.Stage`: where a document stands
* `Build.Course`: every document stands somewhere

## Main results

* `Build.Stage.frame`: a document stands where it stood while others are dealt with
* `Build.Course.advance`: what is done for one document carries the course on
-/

namespace Typeset

open Registry (Notice Operation Timed)

namespace Build

/-! ## Progress and outcomes -/

/-- The progress among remarks. -/
def progressOf (rs : List Remark) : List Progress :=
  rs.filterMap fun
    | .alarm _ _ _ => none
    | .progress p => some p

@[simp] theorem progressOf_append (rs rs' : List Remark) :
    progressOf (rs ++ rs') = progressOf rs ++ progressOf rs' := List.filterMap_append

@[simp] theorem progressOf_alarm_cons (level : Alarm) (message : String) (fs : List Failure)
    (rs : List Remark) : progressOf (.alarm level message fs :: rs) = progressOf rs := rfl

@[simp] theorem progressOf_progress_cons (p : Progress) (rs : List Remark) :
    progressOf (.progress p :: rs) = p :: progressOf rs := rfl

@[simp] theorem progressOf_nil : progressOf [] = [] := rfl

/-- The kinds of progress that a log has for a document. -/
def kindsOf (log : List (Path × Progress)) (document : Path) : List Progress.Kind :=
  (log.filter fun e => e.1 = document).map fun e => e.2.kind

/-- Whether a session started the tool of a document. -/
def Session.Started (s : Session) (document : Path) : Prop := ∃ j ∈ s.jobs, j.document = document

namespace Session

theorem any_outcomes_iff (s : Session) (document : Path) :
    s.outcomes.any (·.1 = document) = true ↔ s.outcomes.lookup document ≠ none := by
  simp [List.lookup_eq_none_iff, @eq_comm _ document]

theorem knows_iff (s : Session) (document : Path) :
    s.knows document = true ↔ s.outcomes.lookup document ≠ none ∨ s.Started document := by
  rw [knows, Bool.or_eq_true, any_outcomes_iff]
  simp [Started]

theorem mem_unsettled (s : Session) (document : Path) :
    document ∈ s.unsettled ↔ s.Started document ∧ s.outcomes.lookup document = none := by
  rw [unsettled, List.mem_filter, List.mem_map, Bool.not_eq_true', Bool.eq_false_iff, ne_eq,
    any_outcomes_iff, Classical.not_not]
  rfl

end Session

/-- The outcome of a document, what the registry has on it and the progress that was told agree. -/
structure Agrees (w : World) (before : Timed) (s : Session) (document : Path) (o : Outcome)
    (kinds : List Progress.Kind) : Prop where
  file : o.file = document
  status : (s.registry.registry.status document.str).status = o.status
  /-- A document that was being built before is left alone. -/
  skipped : before.registry.isBuilding document.str = true →
    o.status = .building ∧ kinds = [.skipped] ∧ ¬ s.Started document ∧
      s.registry.registry.find? document.str = before.registry.find? document.str
  /-- Any other one is built, well or not, or its tool is ended by a signal. -/
  built : before.registry.isBuilding document.str = false →
    (o.status = .success ∧ kinds = [.started, .finished]) ∨
    (o.status = .error ∧ kinds = [.started, .failed] ∧ ∃ error, o.error = some error ∧
      (s.registry.registry.status document.str).error = some error) ∨
    (o.status = .idle ∧ kinds = [.started, .interrupted] ∧
      s.registry.registry.find? document.str = none)
  killed : o.status = .idle ↔ s.Started document ∧ w.exit document < 0

/-! ## Where a document stands -/

/-- Where a document stands in a session, with the kinds of progress that were told about it. -/
inductive Stage (w : World) (before : Timed) (s : Session) (document : Path) :
    List Progress.Kind → Prop where
  | untouched (hjob : ¬ s.Started document) (houtcome : s.outcomes.lookup document = none)
    (hrecord : s.registry.registry.find? document.str = before.registry.find? document.str) :
    Stage w before s document []
  | running (hbefore : before.registry.isBuilding document.str = false) (hjob : s.Started document)
    (houtcome : s.outcomes.lookup document = none) : Stage w before s document [.started]
  | settled {kinds : List Progress.Kind} (o : Outcome)
    (houtcome : s.outcomes.lookup document = some o) (h : Agrees w before s document o kinds) :
    Stage w before s document kinds

variable {w : World} {before : Timed} {s s' : Session} {p q : Path} {d : Deeds}

/-- A verdict is about its document, and it has an error unless the build went well. -/
theorem verdictOn_cases (w : World) (j : Job) :
    (verdictOn w j).outcome.file = j.document ∧ progressOf (verdictOn w j).alarms = [] ∧
      (((verdictOn w j).outcome.status = .success ∧ (verdictOn w j).outcome.error = none) ∨
        ((verdictOn w j).outcome.status = .error ∧
          ∃ error, (verdictOn w j).outcome.error = some error)) := by
  unfold verdictOn judge
  by_cases hexit : w.exit j.document = 0
  · rw [if_pos hexit]
    cases logReport w j.document ((Latexmk.logPath? j.document).getD j.document) with
    | ok r => exact ⟨rfl, rfl, .inl ⟨rfl, rfl⟩⟩
    | error e => exact ⟨rfl, rfl, .inr ⟨rfl, _, rfl⟩⟩
  · rw [if_neg hexit]
    cases logReport w j.document ((Latexmk.logPath? j.document).getD j.document) with
    | ok r => exact ⟨rfl, rfl, .inr ⟨rfl, _, rfl⟩⟩
    | error e => exact ⟨rfl, rfl, .inr ⟨rfl, _, rfl⟩⟩

/-- What is done concerns one document only. -/
structure Deeds.About (document : Path) (d : Deeds) : Prop where
  ops : ∀ op ∈ d.ops, op.file? = some document.str
  progress : ∀ e ∈ progressOf d.remarks, e.file = nameOf document
  jobs : ∀ j ∈ d.jobs, j.document = document
  outcomes : ∀ e ∈ d.outcomes, e.1 = document

namespace Deeds

theorem About.append {e : Deeds} (hd : d.About p) (he : e.About p) : (d ++ e).About p where
  ops op hop := (List.mem_append.mp hop).elim (hd.ops op) (he.ops op)
  progress x hx := by
    rw [remarks_append, progressOf_append] at hx
    exact (List.mem_append.mp hx).elim (hd.progress x) (he.progress x)
  jobs j hj := (List.mem_append.mp hj).elim (hd.jobs j) (he.jobs j)
  outcomes x hx := (List.mem_append.mp hx).elim (hd.outcomes x) (he.outcomes x)

theorem about_skip (document : Path) : (skip document).About document := by
  constructor <;> simp [skip, Progress.file]

theorem about_start (document : Path) (command : List String) :
    (start document command).About document := by
  constructor <;> simp [start, Progress.file, Operation.file?]

theorem about_run (document : Path) : (run document).About document := by
  constructor <;> simp [run]

theorem about_refuse (document : Path) (r : Refusal) : (refuse document r).About document := by
  constructor <;> simp [refuse, Progress.file, Operation.file?]

theorem about_signalled (w : World) (job : Job) : (signalled w job).About job.document := by
  constructor <;> simp [signalled, Progress.file, Operation.file?]

theorem progressOf_announce {v : Verdict} (halarms : progressOf v.alarms = []) :
    progressOf (announce v).remarks = [v.progress] := by
  rw [announce, progressOf_append]
  split <;> simp [halarms]

theorem about_announce {v : Verdict} (hfile : v.outcome.file = p)
    (halarms : progressOf v.alarms = []) : (announce v).About p where
  ops := by
    simp only [announce, Verdict.operation, hfile]
    cases v.outcome.error <;> simp [Operation.file?]
  progress := by
    rw [progressOf_announce halarms]
    simp only [Verdict.progress, hfile]
    cases v.outcome.error <;> simp [Progress.file]
  jobs := by simp [announce]
  outcomes := by simp [announce]

theorem about_judged (w : World) (j : Job) : (judged w j).About j.document := by
  obtain ⟨hfile, halarms, -⟩ := verdictOn_cases w j
  exact (about_announce hfile halarms).append ⟨by simp, by simp, by simp, by simp⟩

theorem Done.find?_of_ne (hd : d.Done s s') (habout : d.About p) {file : String}
    (h : file ≠ p.str) : s'.registry.registry.find? file = s.registry.registry.find? file := by
  rw [hd.registry, Timed.find?_foldl_perform_of_ne habout.ops h]

theorem Done.lookup (hd : d.Done s s') (q : Path) :
    s'.outcomes.lookup q = (s.outcomes.lookup q).or (d.outcomes.lookup q) := by
  rw [hd.outcomes, List.lookup_append]

theorem Done.lookup_of_ne (hd : d.Done s s') (habout : d.About p) (h : q ≠ p) :
    s'.outcomes.lookup q = s.outcomes.lookup q := by
  have hnone : d.outcomes.lookup q = none := by
    refine List.lookup_eq_none_iff.mpr fun e he => ?_
    rw [habout.outcomes e he]
    simpa using h
  rw [hd.lookup, hnone, Option.or_none]

theorem Done.started_iff (hd : d.Done s s') (q : Path) :
    s'.Started q ↔ s.Started q ∨ ∃ j ∈ d.jobs, j.document = q := by
  simp only [Session.Started, hd.jobs, List.mem_append, or_and_right, exists_or]

theorem Done.started_iff_of_ne (hd : d.Done s s') (habout : d.About p) (h : q ≠ p) :
    s'.Started q ↔ s.Started q := by
  rw [hd.started_iff]
  refine or_iff_left ?_
  rintro ⟨j, hj, rfl⟩
  exact h (habout.jobs j hj)

theorem Done.knows (hd : d.Done s s') (h : s.knows p) : s'.knows p := by
  rw [Session.knows_iff] at h ⊢
  refine h.imp (fun h => ?_) fun h => (hd.started_iff p).mpr (.inl h)
  rw [hd.lookup]
  cases hl : s.outcomes.lookup p <;> simp_all

end Deeds

/-- A document stands where it stood while another one is dealt with. Its outcome and its record are
those of before. -/
theorem Stage.frame {kinds : List Progress.Kind} (h : Stage w before s q kinds) (hd : d.Done s s')
    (habout : d.About p) (hne : q ≠ p) (hstr : q.str ≠ p.str) : Stage w before s' q kinds := by
  have hfind := hd.find?_of_ne habout hstr
  have hlookup := hd.lookup_of_ne habout hne
  have hstarted := hd.started_iff_of_ne habout hne
  cases h with
  | untouched hjob houtcome hrecord =>
    exact .untouched ((not_congr hstarted).mpr hjob) (hlookup.trans houtcome) (hfind.trans hrecord)
  | running hbefore hjob houtcome =>
    exact .running hbefore (hstarted.mpr hjob) (hlookup.trans houtcome)
  | settled o houtcome h =>
    have hstatus : s'.registry.registry.status q.str = s.registry.registry.status q.str := by
      rw [Registry.status, hfind, Registry.status]
    have hkilled := h.killed.trans (and_congr_left' hstarted.symm)
    refine .settled o (hlookup.trans houtcome)
      ⟨h.file, hstatus ▸ h.status, fun hb => ?_, fun hb => ?_, hkilled⟩
    · obtain ⟨ho, hk, hj, hr⟩ := h.skipped hb
      exact ⟨ho, hk, (not_congr hstarted).mpr hj, hfind.trans hr⟩
    · rw [hstatus, hfind]
      exact h.built hb

/-! ## The course -/

/-- Every one of some documents stands somewhere, and nothing else was touched. -/
structure Course (documents : List Path) (w : World) (before : Timed) (log : List (Path × Progress))
    (s : Session) : Prop where
  progress : log.map Prod.snd = progressOf s.remarks
  about : ∀ e ∈ log, e.1 ∈ documents ∧ e.2.file = nameOf e.1
  started : ∀ j ∈ s.jobs, j.document ∈ documents
  others : ∀ file, (∀ document ∈ documents, file ≠ document.str) →
    s.registry.registry.find? file = before.registry.find? file
  stage : ∀ document ∈ documents, Stage w before s document (kindsOf log document)

theorem kindsOf_append (log log' : List (Path × Progress)) (document : Path) :
    kindsOf (log ++ log') document = kindsOf log document ++ kindsOf log' document := by
  rw [kindsOf, List.filter_append, List.map_append, kindsOf, kindsOf]

theorem kindsOf_map_self (document : Path) (ps : List Progress) :
    kindsOf (ps.map fun p => (document, p)) document = ps.map Progress.kind := by
  rw [kindsOf, List.filter_eq_self.mpr (by simp), List.map_map]
  rfl

theorem kindsOf_map_of_ne (h : q ≠ p) (ps : List Progress) :
    kindsOf (ps.map fun e => (p, e)) q = [] := by
  rw [kindsOf, List.filter_eq_nil_iff.mpr (by simp [Ne.symm h]), List.map_nil]

/-- What is done for one document carries the course on, if that document stands somewhere
afterwards. Nothing was told about any other document, and none of them has moved. -/
theorem Course.advance {documents : List Path} {log : List (Path × Progress)}
    (hc : Course documents w before log s) (hp : p ∈ documents)
    (hstr : ∀ q ∈ documents, q.str = p.str → q = p) (hd : d.Done s s') (habout : d.About p)
    (hstage : Stage w before s' p (kindsOf log p ++ (progressOf d.remarks).map Progress.kind)) :
    Course documents w before (log ++ (progressOf d.remarks).map fun e => (p, e)) s' where
  progress := by
    rw [List.map_append, hc.progress, hd.remarks, progressOf_append, List.map_map]
    congr 1
    exact List.map_id _
  about := by
    intro e he
    rcases List.mem_append.mp he with he | he
    · exact hc.about e he
    · obtain ⟨e, hmem, rfl⟩ := List.mem_map.mp he
      exact ⟨hp, habout.progress e hmem⟩
  started := by
    intro j hj
    rw [hd.jobs] at hj
    rcases List.mem_append.mp hj with hj | hj
    · exact hc.started j hj
    · exact habout.jobs j hj ▸ hp
  others := fun file hfile => (hd.find?_of_ne habout (hfile p hp)).trans (hc.others file hfile)
  stage := by
    intro q hq
    rw [kindsOf_append]
    by_cases h : q = p
    · rw [h, kindsOf_map_self]
      exact hstage
    · rw [kindsOf_map_of_ne h, List.append_nil]
      exact (hc.stage q hq).frame hd habout h fun hs => h (hstr q hq hs)

end Build

end Typeset
