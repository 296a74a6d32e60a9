import Mathlib.Data.List.Basic
import Typeset.Proofs.Build.Once
import Typeset.Proofs.Path.Written

/-!
# Outcomes and the registry agree

When a session returns, the outcome of every document, what the registry has on it and the progress
that was told about it agree, whatever the tools did and in whatever order they ended.

What is added for a document that is begun carries the course of the session on, and so does what is
added for a tool that is completed. At the end every document is settled.

## Main results

* `Build.Course.begins`, `Build.Course.completes`: the steps of a session carry its course on
* `Build.leads_buildEach`: every document is settled in the end
* `Build.buildAll_agrees`: outcomes and the registry agree
-/

namespace Typeset.Build

open Registry (Notice Operation Timed)

variable {w : World} {o : BuildOptions} {before : Timed} {documents : List Path}
  {log : List (Path × Progress)} {s s' : Session} {p : Path} {d : Deeds}

/-! ## Settling a document -/

/-- What is done for a document settles it, if outcome, registry and progress agree. -/
theorem Course.settle (hc : Course documents w before log s) (hp : p ∈ documents)
    (hstr : ∀ q ∈ documents, q.str = p.str → q = p) (hd : d.Done s s') (habout : d.About p)
    {o : Outcome} (ho : d.outcomes = [(p, o)]) (hnone : s.outcomes.lookup p = none)
    (h : Agrees w before s' p o (kindsOf log p ++ (progressOf d.remarks).map Progress.kind)) :
    ∃ log', Course documents w before log' s' := by
  refine ⟨_, hc.advance hp hstr hd habout (.settled o ?_ h)⟩
  rw [hd.lookup, hnone, ho, Option.none_or, List.lookup_cons_self]

/-! ## Starting a document -/

/-- A document that is not known has been left untouched. -/
theorem Course.kindsOf_of_not_knows (hc : Course documents w before log s) (hp : p ∈ documents)
    (h : ¬ s.knows p) : kindsOf log p = [] ∧ ¬ s.Started p ∧ s.outcomes.lookup p = none ∧
      s.registry.registry.find? p.str = before.registry.find? p.str := by
  rw [Session.knows_iff, not_or, Classical.not_not] at h
  have hstage := hc.stage p hp
  generalize kindsOf log p = kinds at hstage
  cases hstage with
  | untouched hjob houtcome hrecord => exact ⟨rfl, hjob, houtcome, hrecord⟩
  | running _ hjob _ => exact absurd hjob h.2
  | settled o houtcome _ => exact absurd (houtcome.symm.trans h.1) (by simp)

section Unknown

variable (hc : Course documents w before log s) (hp : p ∈ documents)
  (hstr : ∀ q ∈ documents, q.str = p.str → q = p) (hk : ¬ s.knows p)
include hc hp hstr hk

theorem Course.skip (hb : before.registry.isBuilding p.str = true)
    (hd : (Deeds.skip p).Done s s') : ∃ log', Course documents w before log' s' := by
  obtain ⟨hkinds, hjob, houtcome, hrecord⟩ := hc.kindsOf_of_not_knows hp hk
  have hregistry : s'.registry = s.registry := hd.registry
  have hstarted : ¬ s'.Started p := by
    rw [hd.started_iff]
    simpa [Deeds.skip] using hjob
  refine hc.settle hp hstr hd (Deeds.about_skip p) rfl houtcome ?_
  rw [hkinds]
  refine ⟨rfl, ?_, fun _ => ⟨rfl, rfl, hstarted, ?_⟩, fun h => ?_, ?_⟩
  · have hbuilding : s'.registry.registry.isBuilding p.str := by
      rwa [hregistry, Registry.isBuilding, hrecord]
    exact Registry.status_of_isBuilding hbuilding
  · rw [hregistry, hrecord]
  · exact absurd hb (by simp [h])
  · simp [leftAlone, hstarted]

theorem Course.refuse (hb : before.registry.isBuilding p.str = false) {command : List String}
    {r : Refusal} (hd : (Deeds.start p command ++ Deeds.refuse p r).Done s s') :
    ∃ log', Course documents w before log' s' := by
  obtain ⟨hkinds, hjob, houtcome, -⟩ := hc.kindsOf_of_not_knows hp hk
  have hstarted : ¬ s'.Started p := by
    rw [hd.started_iff]
    simpa [Deeds.start, Deeds.refuse] using hjob
  have hfail : (s'.registry.registry.status p.str).status = .error ∧
      (s'.registry.registry.status p.str).error = some r.summary := by
    rw [hd.registry]
    exact Registry.Timed.status_perform_fail _ p.str r.summary r.detail
  have habout := (Deeds.about_start p command).append (Deeds.about_refuse p r)
  refine hc.settle hp hstr hd habout rfl houtcome ?_
  rw [hkinds]
  refine ⟨rfl, hfail.1, fun h => ?_, fun _ => .inr (.inl ⟨rfl, rfl, _, rfl, hfail.2⟩), ?_⟩
  · exact absurd h (by simp [hb])
  · simp [Refusal.outcome, hstarted]

theorem Course.run (hb : before.registry.isBuilding p.str = false) {command : List String}
    (hd : (Deeds.start p command ++ Deeds.run p).Done s s') :
    ∃ log', Course documents w before log' s' := by
  obtain ⟨hkinds, hjob, houtcome, -⟩ := hc.kindsOf_of_not_knows hp hk
  have hstarted : s'.Started p := (hd.started_iff p).mpr (.inr ⟨_, List.mem_cons_self, rfl⟩)
  have habout := (Deeds.about_start p command).append (Deeds.about_run p)
  refine ⟨_, hc.advance hp hstr hd habout ?_⟩
  rw [hkinds]
  exact .running hb hstarted (by rw [hd.lookup, houtcome]; rfl)

end Unknown

/-- What is added for a document that is begun carries the course on. -/
theorem Course.begins (hc : Course documents w before log s) (hp : p ∈ documents)
    (hstr : ∀ q ∈ documents, q.str = p.str → q = p) (hk : ¬ s.knows p)
    (hbegins : Deeds.Begins w s p d) (hd : d.Done s s') :
    ∃ log', Course documents w before log' s' := by
  have hrecord := (hc.kindsOf_of_not_knows hp hk).2.2.2
  have hsame : s.registry.registry.isBuilding p.str = before.registry.isBuilding p.str := by
    rw [Registry.isBuilding, hrecord, Registry.isBuilding]
  cases hbegins with
  | skip hb => exact hc.skip hp hstr hk (hsame ▸ hb) hd
  | run hb _ command => exact hc.run hp hstr hk (hsame ▸ hb) hd
  | refuse hb _ command => exact hc.refuse hp hstr hk (hsame ▸ hb) hd

/-! ## Completing a document -/

/-- The start of a tool that runs is all that was told about its document. -/
theorem Course.kindsOf_of_running (hc : Course documents w before log s) (hp : p ∈ documents)
    (hjob : s.Started p) (houtcome : s.outcomes.lookup p = none) :
    before.registry.isBuilding p.str = false ∧ kindsOf log p = [.started] := by
  have hstage := hc.stage p hp
  generalize kindsOf log p = kinds at hstage ⊢
  cases hstage with
  | untouched h => exact absurd hjob h
  | running h => exact ⟨h, rfl⟩
  | settled o h => exact absurd (h.symm.trans houtcome) (by simp)

section Running

variable {j : Job} (hc : Course documents w before log s) (hp : j.document ∈ documents)
  (hstr : ∀ q ∈ documents, q.str = j.document.str → q = j.document)
  (hjob : s.Started j.document) (houtcome : s.outcomes.lookup j.document = none)
include hc hp hstr hjob houtcome

theorem Course.signalled (hexit : w.exit j.document < 0) (hd : (Deeds.signalled w j).Done s s') :
    ∃ log', Course documents w before log' s' := by
  obtain ⟨hb, hkinds⟩ := hc.kindsOf_of_running hp hjob houtcome
  have hstarted : s'.Started j.document := (hd.started_iff _).mpr (.inl hjob)
  have hfind : s'.registry.registry.find? j.document.str = none := by
    rw [hd.registry]
    exact Registry.Timed.find?_perform_reset _ _
  refine hc.settle hp hstr hd (Deeds.about_signalled w j) rfl houtcome ?_
  rw [hkinds]
  refine ⟨rfl, ?_, fun h => ?_, fun _ => .inr (.inr ⟨rfl, rfl, hfind⟩), ?_⟩
  · rw [Registry.status, hfind]
  · exact absurd h (by simp [hb])
  · exact iff_of_true rfl ⟨hstarted, hexit⟩

/-- The diagnostics come last and change no record. -/
theorem Course.judged (hexit : ¬ w.exit j.document < 0) (hd : (Deeds.judged w j).Done s s') :
    ∃ log', Course documents w before log' s' := by
  obtain ⟨hb, hkinds⟩ := hc.kindsOf_of_running hp hjob houtcome
  have hstarted : s'.Started j.document := (hd.started_iff _).mpr (.inl hjob)
  obtain ⟨hfile, halarms, hcases⟩ := verdictOn_cases w j
  have hprogress : progressOf (Deeds.judged w j).remarks = [(verdictOn w j).progress] := by
    rw [Deeds.judged, Deeds.remarks_append, progressOf_append, Deeds.progressOf_announce halarms]
    rfl
  have hregistry : s'.registry.registry =
      (s.registry.perform (verdictOn w j).operation).1.registry := by
    rw [hd.registry]
    rfl
  refine hc.settle hp hstr hd (Deeds.about_judged w j) rfl houtcome ?_
  rw [hkinds, hprogress]
  have hbuilding (h : before.registry.isBuilding j.document.str = true) : False := by
    simp [hb] at h
  rcases hcases with ⟨hstatus, herror⟩ | ⟨hstatus, error, herror⟩
  · have hrecord : (s'.registry.registry.status j.document.str).status = .success := by
      rw [hregistry, Verdict.operation, herror, hfile]
      exact Registry.Timed.status_perform_finish _ _ _ _
    refine ⟨hfile, hrecord.trans hstatus.symm, fun h => (hbuilding h).elim,
      fun _ => .inl ⟨hstatus, ?_⟩, iff_of_false (by simp [hstatus]) fun h => hexit h.2⟩
    simp [Verdict.progress, herror, Progress.kind]
  · have hrecord : (s'.registry.registry.status j.document.str).status = .error ∧
        (s'.registry.registry.status j.document.str).error = some error := by
      rw [hregistry, Verdict.operation, herror, hfile]
      exact Registry.Timed.status_perform_fail _ _ _ _
    refine ⟨hfile, hrecord.1.trans hstatus.symm, fun h => (hbuilding h).elim,
      fun _ => .inr (.inl ⟨hstatus, ?_, error, herror, hrecord.2⟩),
      iff_of_false (by simp [hstatus]) fun h => hexit h.2⟩
    simp [Verdict.progress, herror, Progress.kind]

/-- What is added for a tool that is completed carries the course on. -/
theorem Course.completes (hd : (Deeds.complete w j).Done s s') :
    ∃ log', Course documents w before log' s' := by
  rw [Deeds.complete] at hd
  by_cases hexit : w.exit j.document < 0
  · rw [if_pos hexit] at hd
    exact hc.signalled hp hstr hjob houtcome hexit hd
  · rw [if_neg hexit] at hd
    exact hc.judged hp hstr hjob houtcome hexit hd

end Running

/-! ## The whole session -/

/-- In the end every document has an outcome that agrees with the registry. -/
def Settled (documents : List Path) (w : World) (before : Timed) (s : Session) : Prop :=
  ∃ log, Course documents w before log s ∧ ∀ p ∈ documents, ∃ o, s.outcomes.lookup p = some o ∧
    Agrees w before s p o (kindsOf log p)

theorem leads_buildEach (w : World) (o : BuildOptions)
    (hclean : ∀ q ∈ documents, q.IsClean) (before : Timed) :
    Leads (buildEach w o documents) { registry := before }
      (fun _ => Settled documents w before) fun _ => True := by
  have hcourse : Course documents w before [] { registry := before } := by
    refine ⟨rfl, by simp, by simp, fun _ _ => rfl, fun p _ => ?_⟩
    exact .untouched (by simp [Session.Started]) rfl rfl
  have hstr (p : Path) (hp : p ∈ documents) (q : Path) (hq : q ∈ documents)
      (h : q.str = p.str) : q = p := Path.eq_of_str_eq (hclean q hq) (hclean p hp) h
  refine (buildEach_induction (P := fun s => ∃ log, Course documents w before log s) w o ?_ ?_
    (.of_nil rfl rfl documents) ⟨[], hcourse⟩).mono (fun _ s' h => ?_) fun _ h => h
  · rintro p todo s s' d hs hk ⟨log, hc⟩ hbegins hd
    have hp : p ∈ documents := hs.named p List.mem_cons_self
    exact hc.begins hp (hstr p hp) hk hbegins hd
  · rintro j watched ended s s' hs ⟨log, hc⟩ hd
    obtain ⟨hjob, houtcome⟩ := hs.running j List.mem_cons_self
    have hp : j.document ∈ documents := by
      obtain ⟨j', hj', heq⟩ := hjob
      exact heq ▸ hc.started j' hj'
    exact hc.completes hp (hstr _ hp) hjob houtcome hd
  · obtain ⟨-, -, houtcomes, log, hc⟩ := h
    refine ⟨log, hc, fun p hp => ?_⟩
    obtain ⟨o, ho⟩ := houtcomes p hp
    have hstage := hc.stage p hp
    generalize kindsOf log p = kinds at hstage ⊢
    cases hstage with
    | untouched _ hnone => exact absurd (hnone.symm.trans ho) (by simp)
    | running _ _ hnone => exact absurd (hnone.symm.trans ho) (by simp)
    | settled o houtcome h => exact ⟨o, houtcome, h⟩

/-- When a session returns, there is an outcome for every document that was named. What was told
about the progress is a log in which every document was either left alone, because it was being
built before, or announced and then ended in one way; the registry has the status of the outcome
and, if the build failed, its error. Documents that were not named are as before. -/
theorem buildAll_agrees (w : World) (hcwd : ∀ n ∈ w.before.cwd, Path.IsComponent n)
    (o : BuildOptions) (texts : List Text) (before : Timed) {outcomes : List Outcome} {s : Session}
    (h : buildAll w o (texts.map Path.ofText) { registry := before } = (.ok outcomes, s)) :
    let documents := texts.map fun t => Path.resolve ⟨.root, w.before.cwd⟩ (.ofText t)
    ∃ (log : List (Path × Progress)) (outcomeOf : Path → Outcome),
      log.map Prod.snd = progressOf s.remarks ∧
      (∀ e ∈ log, e.1 ∈ documents ∧ e.2.file = nameOf e.1) ∧
      outcomes = documents.map outcomeOf ∧
      (∀ p ∈ documents, Agrees w before s p (outcomeOf p) (kindsOf log p)) ∧
      ∀ file, (∀ p ∈ documents, file ≠ p.str) →
        s.registry.registry.find? file = before.registry.find? file := by
  intro documents
  have hclean : ∀ p ∈ documents, p.IsClean := by
    intro p hp
    obtain ⟨t, -, rfl⟩ := List.mem_map.mp hp
    exact Path.IsClean.resolve hcwd (Path.isClean_ofText t)
  have hdocuments : (texts.map Path.ofText).map (Path.resolve ⟨.root, w.before.cwd⟩) = documents :=
    List.map_map
  obtain ⟨hrun, houtcomes⟩ := buildAll_eq_ok h
  rw [hdocuments] at hrun houtcomes
  have hsettled := leads_buildEach w o hclean before
  rw [Leads, hrun] at hsettled
  obtain ⟨log, hc, hsettled⟩ := hsettled
  let outcomeOf (p : Path) : Outcome := (s.outcomes.lookup p).getD { file := p, status := .idle }
  have hlookup (p : Path) (hp : p ∈ documents) : s.outcomes.lookup p = some (outcomeOf p) := by
    obtain ⟨o, ho, -⟩ := hsettled p hp
    simp only [outcomeOf, ho, Option.getD_some]
  refine ⟨log, outcomeOf, hc.progress, hc.about, ?_, fun p hp => ?_, hc.others⟩
  · exact houtcomes.trans (List.filterMap_eq_map_iff_forall_eq_some.mpr hlookup)
  · obtain ⟨o, ho, h⟩ := hsettled p hp
    rw [hlookup p hp] at ho
    exact Option.some.inj ho ▸ h

/-- Six documents, the first of them named twice: one is built, one fails, the tool of one is killed
and that of one is not there, and one was being built before. The tools end in another order than
they were started in. -/
theorem buildAll_agrees_of_all_kinds :
    let path (name : String) : Path := ⟨.root, ["w".toList, name.toList]⟩
    let ending (name : String) : List Reading :=
      [⟨path name, .errors, none⟩, ⟨path name, .output, some "text".toList⟩,
        ⟨path name, .output, none⟩]
    let w : World :=
      { before := { cwd := ["w".toList] }
        after :=
          { nodes := [(["w".toList], .directory), (["w".toList, "a.log".toList], .file "".toUTF8)]
            cwd := ["w".toList] }
        refusal := fun p => if p = path "e.tex" then some ⟨.missing, "latexmk"⟩ else none
        exit := fun p => if p = path "b.tex" then 12 else if p = path "c.tex" then -9 else 0
        elapsed := fun _ => 0
        readings := ending "b.tex" ++ ending "c.tex" ++ ending "a.tex" }
    let texts : List Text :=
      ["a.tex", "b.tex", "c.tex", "d.tex", "e.tex", "./a.tex"].map String.toList
    let before : Timed := ⟨(Registry.start {} "/w/d.tex" 0).1, ⟨[], 0⟩⟩
    let documents := texts.map fun t => Path.resolve ⟨.root, w.before.cwd⟩ (.ofText t)
    (∀ n ∈ w.before.cwd, Path.IsComponent n) ∧
      ∃ outcomes s,
        buildAll w {} (texts.map Path.ofText) { registry := before } = (.ok outcomes, s) ∧
        outcomes.map Outcome.status = [.success, .error, .idle, .building, .error, .success] ∧
        ∃ log outcomeOf, log.map Prod.snd = progressOf s.remarks ∧
          outcomes = documents.map outcomeOf ∧
          ∀ p ∈ documents, Agrees w before s p (outcomeOf p) (kindsOf log p) := by
  intro path ending w texts before documents
  have hcwd : ∀ n ∈ w.before.cwd, Path.IsComponent n := by
    intro n hn
    obtain rfl := List.mem_singleton.mp hn
    exact ⟨by decide, by decide, by decide⟩
  have hstatuses : (buildAll w {} (texts.map Path.ofText) { registry := before }).1.toOption.map
      (List.map Outcome.status) = some [.success, .error, .idle, .building, .error, .success] := by
    decide +kernel
  rcases hr : buildAll w {} (texts.map Path.ofText) { registry := before } with
    ⟨_ | outcomes, s⟩ <;> rw [hr] at hstatuses
  · cases hstatuses
  · obtain ⟨log, outcomeOf, hlog, -, houtcomes, hagrees, -⟩ :=
      buildAll_agrees w hcwd {} texts before hr
    exact ⟨hcwd, outcomes, s, rfl, Option.some.inj hstatuses, log, outcomeOf, hlog, houtcomes,
      hagrees⟩

end Typeset.Build
