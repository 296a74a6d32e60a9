import Typeset.Proofs.Build.Course
import Typeset.Proofs.Build.Drain

/-!
# Each document is dealt with once

However often a document is named and in whatever order the pipes tell, a session starts its tool at
most once and settles it at most once, and a session that returns has settled every document that
was named. A tool without an outcome is still to be completed or has a pipe that is watched, so
nothing is left once no pipe is.

## Main definitions

* `Build.Once`: no tool was started twice, and no document was settled twice
* `Build.Starting`, `Build.Awaiting`: what holds between the steps of the two loops of a session

## Main results

* `Build.Starting.begins`, `Build.Awaiting.completes`: one step of each loop
* `Build.buildEach_induction`: what each step keeps holds in the end, and every document is settled
* `Build.buildAll_outcomes`: the outcomes that are given back are those of the documents named
-/

namespace Typeset.Build

variable {w : World} {o : BuildOptions} {documents : List Path} {s s' : Session} {p : Path}
  {d : Deeds} {j : Job}

/-! ## What is added for one document -/

/-- The tool of a document runs, or the document has an outcome. -/
structure Deeds.Single (p : Path) (d : Deeds) : Prop where
  about : d.About p
  either : (d.outcomes = [] ∧ d.jobs = [{ document := p }]) ∨
    (d.jobs = [] ∧ ∃ o, d.outcomes = [(p, o)] ∧ o.file = p)

namespace Deeds

theorem Begins.single (h : Begins w s p d) : d.Single p := by
  cases h with
  | skip _ => exact ⟨about_skip p, .inr ⟨rfl, _, rfl, rfl⟩⟩
  | run _ _ command => exact ⟨(about_start p command).append (about_run p), .inl ⟨rfl, rfl⟩⟩
  | refuse _ _ command =>
    exact ⟨(about_start p command).append (about_refuse p _), .inr ⟨rfl, _, rfl, rfl⟩⟩

theorem about_complete (w : World) (j : Job) : (complete w j).About j.document := by
  unfold complete
  split
  · exact about_signalled w j
  · exact about_judged w j

theorem complete_outcome (w : World) (j : Job) :
    (complete w j).jobs = [] ∧
      ∃ o, (complete w j).outcomes = [(j.document, o)] ∧ o.file = j.document := by
  unfold complete
  split
  · exact ⟨rfl, _, rfl, rfl⟩
  · exact ⟨rfl, _, rfl, (verdictOn_cases w j).1⟩

theorem complete_single (w : World) (j : Job) : (complete w j).Single j.document :=
  ⟨about_complete w j, .inr (complete_outcome w j)⟩

end Deeds

/-! ## What a session keeps of the documents -/

theorem Session.lookup_outcomes_eq_none :
    s.outcomes.lookup p = none ↔ p ∉ s.outcomes.map Prod.fst := by
  rw [List.lookup_eq_none_iff, List.mem_map, not_exists]
  exact forall_congr' fun e => by simp [@eq_comm _ p]

/-- No tool was started twice and no document was settled twice, each outcome is that of its
document, and the tools are there as they were started. -/
structure Once (s : Session) : Prop where
  jobs : (s.jobs.map Job.document).Nodup
  fresh : ∀ j ∈ s.jobs, j = { document := j.document }
  outcomes : (s.outcomes.map Prod.fst).Nodup
  files : ∀ e ∈ s.outcomes, e.2.file = e.1

/-- What is added for a document that has no outcome, and whose tool is started only if it was not
started before. -/
theorem Once.add (hs : Once s) (hd : d.Done s s') (hsingle : d.Single p)
    (hstarted : d.jobs ≠ [] → ¬ s.Started p) (houtcome : s.outcomes.lookup p = none) :
    Once s' := by
  rcases hsingle.either with ⟨hnil, hjobs⟩ | ⟨hnil, o, ho, hfile⟩
  · have hsame : s'.outcomes = s.outcomes := by rw [hd.outcomes, hnil, List.append_nil]
    have hnew : ¬ s.Started p := hstarted (by simp [hjobs])
    refine ⟨?_, ?_, hsame ▸ hs.outcomes, hsame ▸ hs.files⟩
    · rw [hd.jobs, hjobs, List.map_append]
      refine hs.jobs.append (List.nodup_singleton _) ?_
      simpa [Session.Started] using hnew
    · rw [hd.jobs, hjobs]
      simpa [or_imp, forall_and] using hs.fresh
  · have hsame : s'.jobs = s.jobs := by rw [hd.jobs, hnil, List.append_nil]
    refine ⟨hsame ▸ hs.jobs, hsame ▸ hs.fresh, ?_, ?_⟩
    · rw [hd.outcomes, ho, List.map_append]
      refine hs.outcomes.append (List.nodup_singleton _) ?_
      simpa using Session.lookup_outcomes_eq_none.mp houtcome
    · rw [hd.outcomes, ho]
      simpa [or_imp, forall_and, hfile] using hs.files

/-! ## Starting the documents -/

/-- What holds while documents are still to be started: no tool that runs has an outcome, and every
document is known or still to come. -/
structure Starting (documents todo : List Path) (s : Session) : Prop extends Once s where
  running : ∀ j ∈ s.jobs, s.outcomes.lookup j.document = none
  named : ∀ q ∈ todo, q ∈ documents
  known : ∀ q ∈ documents, q ∈ todo ∨ s.knows q

variable {todo : List Path}

/-- A document that is known need not be started. -/
theorem Starting.pass (hs : Starting documents (p :: todo) s) (hp : s.knows p) :
    Starting documents todo s := by
  refine ⟨hs.toOnce, hs.running, fun q hq => hs.named q (List.mem_cons_of_mem _ hq), fun q hq => ?_⟩
  rcases hs.known q hq with h | h
  · rcases List.mem_cons.mp h with rfl | h
    · exact .inr hp
    · exact .inl h
  · exact .inr h

/-- What is added for a document that was not known makes it known. Tools that ran before have no
outcomes still, and one that is started has none yet. -/
theorem Starting.begins (hs : Starting documents (p :: todo) s) (hk : ¬ s.knows p)
    (hsingle : d.Single p) (hd : d.Done s s') : Starting documents todo s' := by
  rw [Session.knows_iff, not_or, Classical.not_not] at hk
  obtain ⟨houtcome, hjob⟩ := hk
  have hlookup : s'.outcomes.lookup p = d.outcomes.lookup p := by
    rw [hd.lookup, houtcome, Option.none_or]
  have hp : s'.knows p := by
    rw [Session.knows_iff, hlookup, hd.started_iff]
    rcases hsingle.either with ⟨-, hjobs⟩ | ⟨-, o, ho, -⟩
    · exact .inr (.inr ⟨_, hjobs ▸ List.mem_singleton_self _, rfl⟩)
    · exact .inl (by simp [ho])
  refine Starting.pass ⟨hs.add hd hsingle (fun _ => hjob) houtcome, fun j hj => ?_, hs.named,
    fun q hq => (hs.known q hq).imp_right fun h => hd.knows h⟩ hp
  rw [hd.jobs] at hj
  rcases List.mem_append.mp hj with hj | hj
  · have hne : j.document ≠ p := fun h => hjob ⟨j, hj, h⟩
    exact (hd.lookup_of_ne hsingle.about hne).trans (hs.running j hj)
  · rcases hsingle.either with ⟨hnil, -⟩ | ⟨hnil, -⟩
    · rw [hsingle.about.jobs j hj, hlookup, hnil]
      rfl
    · rw [hnil] at hj
      cases hj

/-! ## Completing the tools -/

/-- What holds while tools are still to be completed: they run and have no outcomes, and any other
tool without an outcome has a pipe that is watched. -/
structure Awaiting (documents : List Path) (watched : List Pipe) (todo : List Job) (s : Session) :
    Prop extends Once s where
  known : ∀ q ∈ documents, s.knows q
  running : ∀ j ∈ todo, s.Started j.document ∧ s.outcomes.lookup j.document = none
  distinct : (todo.map Job.document).Nodup
  awaited : ∀ q ∈ s.unsettled, q ∈ todo.map Job.document ∨ ∃ p ∈ watched, p.document = q

variable {watched : List Pipe} {ended : List Job}

/-- Once all documents have been started, the tools that end are to be completed. -/
theorem Starting.awaiting (hs : Starting documents [] s) (rs : List Reading) :
    Awaiting documents ((Selector.watch s.jobs).drain rs).2.pipes
      ((Selector.watch s.jobs).drain rs).1 s := by
  refine ⟨hs.toOnce, fun q hq => (hs.known q hq).resolve_left List.not_mem_nil, fun j hj => ?_,
    Selector.nodup_drain_watch hs.jobs, fun q hq => ?_⟩
  · obtain ⟨j', hj', rfl, -⟩ := (Selector.mem_drain_watch hs.jobs).mp hj
    exact ⟨⟨j', hj', rfl⟩, hs.running j' hj'⟩
  · obtain ⟨j, hj, rfl⟩ := ((s.mem_unsettled q).mp hq).1
    exact or_iff_not_imp_left.mpr (Selector.exists_pipe_of_not_mem hs.jobs hj)

/-- A tool that is completed has an outcome, and the others are still to be completed. -/
theorem Awaiting.completes (hs : Awaiting documents watched (j :: ended) s)
    (hd : (Deeds.complete w j).Done s s') : Awaiting documents watched ended s' := by
  have hsingle := Deeds.complete_single w j
  obtain ⟨hjobs, o, ho, -⟩ := Deeds.complete_outcome w j
  obtain ⟨⟨hjob, houtcome⟩, hrunning⟩ := List.forall_mem_cons.mp hs.running
  obtain ⟨hnew, hdistinct⟩ := List.nodup_cons.mp hs.distinct
  refine ⟨hs.add hd hsingle (absurd hjobs) houtcome, fun q hq => hd.knows (hs.known q hq),
    fun j' hj' => ?_, hdistinct, fun q hq => ?_⟩
  · have hne : j'.document ≠ j.document := fun h => hnew (h ▸ List.mem_map_of_mem hj')
    exact ⟨(hd.started_iff _).mpr (.inl (hrunning j' hj').1),
      (hd.lookup_of_ne hsingle.about hne).trans (hrunning j' hj').2⟩
  · obtain ⟨hq, hnone⟩ := (s'.mem_unsettled q).mp hq
    have hne : q ≠ j.document := by
      rintro rfl
      rw [hd.lookup, houtcome, ho] at hnone
      simp at hnone
    have hmem : q ∈ s.unsettled := (s.mem_unsettled q).mpr
      ⟨(hd.started_iff_of_ne hsingle.about hne).mp hq,
        (hd.lookup_of_ne hsingle.about hne).symm.trans hnone⟩
    refine (hs.awaited q hmem).imp_left fun h => ?_
    exact (List.mem_cons.mp h).resolve_left hne

/-- Once no tool is to be completed and no pipe is watched, every document has an outcome. -/
theorem Awaiting.settled (hs : Awaiting documents [] [] s) :
    s.unsettled = [] ∧ ∀ q ∈ documents, ∃ o, s.outcomes.lookup q = some o := by
  have hnil : s.unsettled = [] := by
    refine List.eq_nil_iff_forall_not_mem.mpr fun q hq => ?_
    simpa using hs.awaited q hq
  refine ⟨hnil, fun q hq => Option.ne_none_iff_exists'.mp fun hnone => ?_⟩
  have hjob := ((s.knows_iff q).mp (hs.known q hq)).resolve_left fun h => h hnone
  have hmem := (s.mem_unsettled q).mpr ⟨hjob, hnone⟩
  rw [hnil] at hmem
  cases hmem

/-! ## The whole session -/

/-- To complete tools as they end is to complete the tools that are drained. -/
theorem attend_eq (w : World) (selector : Selector) (rs : List Reading) :
    attend w selector rs = (do
      forAll (complete w) (selector.drain rs).1
      if (selector.drain rs).2.pipes.isEmpty then pure () else throw w.silence) := by
  induction rs generalizing selector with
  | nil => exact (pure_bind _ _).symm
  | cons r rs ih =>
    rw [attend, Selector.drain]
    rcases selector.hear r with ⟨selector, _ | j⟩
    · simp only [ih, Option.toList_none, List.nil_append]
    · simp only [ih, forAll, bind_assoc, Option.toList_some, List.singleton_append]

/-- A session that has not dealt with any documents yet. -/
theorem Starting.of_nil (hjobs : s.jobs = []) (houtcomes : s.outcomes = [])
    (documents : List Path) : Starting documents documents s :=
  ⟨⟨by simp [hjobs], by simp [hjobs], by simp [houtcomes], by simp [houtcomes]⟩, by simp [hjobs],
    fun _ hq => hq, fun _ hq => .inl hq⟩

section Kept

variable {P : Session → Prop} (w : World) (o : BuildOptions)

/-- What is added for each document that is begun is all that happens while documents are
started. -/
theorem leads_starts
    (hbegin : ∀ p todo s s' d, Starting documents (p :: todo) s → ¬ s.knows p → P s →
      Deeds.Begins w s p d → d.Done s s' → P s')
    (hs : Starting documents documents s) (hP : P s) :
    Leads (forAll (begin w o) documents) s (fun _ s' => Starting documents [] s' ∧ P s')
      fun _ => True := by
  refine leads_forAll (I := fun todo s => Starting documents todo s ∧ P s)
    (fun p todo s hs => ?_) ⟨hs, hP⟩
  refine (leads_begin w o p s).mono (fun _ s' h => ?_) fun _ h => h
  rcases h with ⟨hk, rfl⟩ | ⟨hk, d, hbegins, hd⟩
  · exact ⟨hs.1.pass hk, hs.2⟩
  · exact ⟨hs.1.begins hk hbegins.single hd, hbegin p todo s s' d hs.1 hk hs.2 hbegins hd⟩

/-- What is added for each tool that is completed is all that happens while the session waits. -/
theorem leads_await
    (hcomplete : ∀ j watched ended s s', Awaiting documents watched (j :: ended) s → P s →
      (Deeds.complete w j).Done s s' → P s')
    (hs : Starting documents [] s) (hP : P s) :
    Leads (await w) s (fun _ s' => Awaiting documents [] [] s' ∧ P s') fun _ => True := by
  let watched := ((Selector.watch s.jobs).drain w.readings).2.pipes
  have hcompletes : Leads (forAll (complete w) ((Selector.watch s.jobs).drain w.readings).1) s
      (fun _ s' => Awaiting documents watched [] s' ∧ P s') fun _ => True := by
    refine leads_forAll (I := fun ended s => Awaiting documents watched ended s ∧ P s)
      (fun j ended s hs => ?_) ⟨hs.awaiting w.readings, hP⟩
    exact (performs_complete w j s).mono
      (fun _ s' hd => ⟨hs.1.completes hd, hcomplete j watched ended s s' hs.1 hs.2 hd⟩)
      fun _ h => h
  refine .bind (leads_get ?_)
  rw [attend_eq]
  refine hcompletes.andThen fun _ s' hs' => ?_
  by_cases hnil : watched.isEmpty
  · rw [if_pos hnil]
    rw [List.isEmpty_iff.mp hnil] at hs'
    exact leads_pure hs'
  · rw [if_neg hnil]
    exact leads_throw trivial

/-- When a session returns, every document has an outcome. An assertion that is carried on by what
is added for each document that is begun or completed holds then as well. -/
theorem buildEach_induction
    (hbegin : ∀ p todo s s' d, Starting documents (p :: todo) s → ¬ s.knows p → P s →
      Deeds.Begins w s p d → d.Done s s' → P s')
    (hcomplete : ∀ j watched ended s s', Awaiting documents watched (j :: ended) s → P s →
      (Deeds.complete w j).Done s s' → P s')
    (hs : Starting documents documents s) (hP : P s) :
    Leads (buildEach w o documents) s
      (fun _ s' => Once s' ∧ s'.unsettled = [] ∧
        (∀ q ∈ documents, ∃ o, s'.outcomes.lookup q = some o) ∧ P s')
      fun _ => True :=
  (leads_starts w o hbegin hs hP).andThen fun _ _ hs₁ =>
    (leads_await w hcomplete hs₁.1 hs₁.2).mono
      (fun _ _ hs₂ => ⟨hs₂.1.toOnce, hs₂.1.settled.1, hs₂.1.settled.2, hs₂.2⟩) fun _ h => h

end Kept

/-- When a session returns, no tool is left and every document has been settled, once. -/
theorem leads_buildEach_once (w : World) (o : BuildOptions) (documents : List Path)
    (hjobs : s.jobs = []) (houtcomes : s.outcomes = []) :
    Leads (buildEach w o documents) s
      (fun _ s' => Once s' ∧ s'.unsettled = [] ∧
        ∀ q ∈ documents, ∃ o, s'.outcomes.lookup q = some o)
      fun _ => True :=
  (buildEach_induction (P := fun _ => True) w o (fun _ _ _ _ _ _ _ _ _ _ => trivial)
    (fun _ _ _ _ _ _ _ _ => trivial) (.of_nil hjobs houtcomes documents) trivial).mono
    (fun _ _ h => ⟨h.1, h.2.1, h.2.2.1⟩) fun _ h => h

/-- A session that returns was not stopped, and it returns the outcomes that it has. -/
theorem buildAll_eq_ok {named : List Path} {outcomes : List Outcome}
    (h : buildAll w o named s = (.ok outcomes, s')) :
    let documents := named.map (Path.resolve ⟨.root, w.before.cwd⟩)
    (buildEach w o documents).run s = (.ok (), s') ∧
      outcomes = documents.filterMap fun p => s'.outcomes.lookup p := by
  intro documents
  unfold buildAll attempt at h
  rcases hr : (buildEach w o documents).run s with ⟨e | _, s₁⟩ <;> simp only [documents] at hr <;>
    simp only [hr] at h
  · cases e <;> cases h
  · cases h
    exact ⟨rfl, rfl⟩

/-- A session that returns gives back an outcome for each document that was named, in their order,
whatever the pipes told. -/
theorem buildAll_outcomes {named : List Path} {outcomes : List Outcome} (hjobs : s.jobs = [])
    (hnone : s.outcomes = []) (h : buildAll w o named s = (.ok outcomes, s')) :
    let documents := named.map (Path.resolve ⟨.root, w.before.cwd⟩)
    Once s' ∧ outcomes.map some = documents.map (fun p => s'.outcomes.lookup p) ∧
      outcomes.map Outcome.file = documents := by
  intro documents
  obtain ⟨hrun, houtcomes⟩ := buildAll_eq_ok h
  have hsettled := leads_buildEach_once w o documents hjobs hnone
  rw [Leads, hrun] at hsettled
  obtain ⟨honce, -, hsettled⟩ := hsettled
  refine ⟨honce, ?_, ?_⟩
  · rw [houtcomes, List.map_filterMap, List.filterMap_eq_map_iff_forall_eq_some]
    intro p hp
    obtain ⟨o, ho⟩ := hsettled p hp
    rw [ho, Option.map_some]
  · rw [houtcomes, List.map_filterMap]
    refine (List.filterMap_eq_map_iff_forall_eq_some.mpr fun p hp => ?_).trans (List.map_id _)
    obtain ⟨o, ho⟩ := hsettled p hp
    obtain ⟨l, l', hl, -⟩ := List.lookup_eq_some_iff.mp ho
    have hfile : o.file = p := honce.files (p, o) (by simp [hl])
    rw [ho, Option.map_some, hfile]
    rfl

end Typeset.Build
