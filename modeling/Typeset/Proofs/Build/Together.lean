import Typeset.Proofs.Build.Once

/-!
# Documents that are built together

The tools of several documents run at the same time, and their pipes tell in whatever order. Each
tool ends when both of its pipes have ended and not before, with what it wrote itself, and it is
completed once. So the outcomes that a session returns are those of the documents that were named,
one for one, even if a document is named more than once.

## Main results

* `Build.leads_attend`: the tools are completed in the order in which they end
* `Build.built_together`: what the pipes told comes to the documents that it belongs to
-/

namespace Typeset.Build

open Registry (Timed)

/-- The tools are completed in the order in which they end, and no other tool is started. -/
theorem leads_attend (w : World) (selector : Selector) (rs : List Reading) (s : Session) :
    Leads (attend w selector rs) s
      (fun _ s' => s'.jobs = s.jobs ∧ s'.outcomes.map Prod.fst =
        s.outcomes.map Prod.fst ++ (selector.drain rs).1.map Job.document)
      fun _ => True := by
  have hcompletes : Leads (forAll (complete w) (selector.drain rs).1) s
      (fun _ s' => s'.jobs = s.jobs ∧ s'.outcomes.map Prod.fst ++ [] =
        s.outcomes.map Prod.fst ++ (selector.drain rs).1.map Job.document)
      fun _ => True := by
    refine leads_forAll (I := fun ended s' => s'.jobs = s.jobs ∧
      s'.outcomes.map Prod.fst ++ ended.map Job.document =
        s.outcomes.map Prod.fst ++ (selector.drain rs).1.map Job.document)
      (fun j ended s₁ hs₁ => ?_) ⟨rfl, rfl⟩
    refine (performs_complete w j s₁).mono (fun _ s₂ hd => ?_) fun _ h => h
    obtain ⟨hjobs, o, ho, -⟩ := Deeds.complete_outcome w j
    refine ⟨by rw [hd.jobs, hjobs, List.append_nil, hs₁.1], ?_⟩
    rw [hd.outcomes, ho, List.map_append, List.append_assoc, ← hs₁.2]
    rfl
  rw [attend_eq]
  refine hcompletes.andThen fun _ s' hs' => ?_
  split
  · exact leads_pure (by simpa using hs')
  · exact leads_throw trivial

/-- **Documents are built together, and each for itself.** Let the documents have been started, and
let the pipes of the tools that run tell their pieces and their ends in any order.

Whatever is read is read from a pipe that is watched, and after the last reading none is. Every
tool is given back once, when both of its pipes have ended and not before, with the pieces of its
own pipes. When the session returns, it has completed these tools in this order, and it returns the
outcomes of the documents that were named, one for each name. No tool was started twice and no
document settled twice. -/
theorem built_together (w : World) (o : BuildOptions) (named : List Path) (before : Timed)
    (interpreter : Log.Interpreter) (pieces : Pipe → List Text) {started : Session}
    (hstarted : (forAll (begin w o) (named.map (Path.resolve ⟨.root, w.before.cwd⟩))).run
      { registry := before, interpreter := interpreter } = (.ok (), started))
    (hreadings : Interleaving started.jobs pieces w.readings) :
    let documents := named.map (Path.resolve ⟨.root, w.before.cwd⟩)
    let drained (rs : List Reading) : List Job × Selector :=
      (Selector.watch started.jobs).drain rs
    (∀ rs r rs', w.readings = rs ++ r :: rs' → r.pipe ∈ (drained rs).2.pipes) ∧
      (drained w.readings).2.pipes = [] ∧
      (started.jobs.map Job.document).Nodup ∧
      (drained w.readings).1.Perm (started.jobs.map (·.ended pieces)) ∧
      (∀ rs rs', w.readings = rs ++ rs' → (drained rs).1 <+: (drained w.readings).1 ∧
        ∀ j ∈ (drained w.readings).1,
          j ∈ (drained rs).1 ↔ ∀ c, none ∈ told ⟨j.document, c⟩ rs) ∧
      ∀ outcomes s,
        buildAll w o named { registry := before, interpreter := interpreter } = (.ok outcomes, s) →
          outcomes.map some = documents.map (fun p => s.outcomes.lookup p) ∧
          outcomes.map Outcome.file = documents ∧
          s.jobs = started.jobs ∧ (s.outcomes.map Prod.fst).Nodup ∧
          s.outcomes.map Prod.fst =
            started.outcomes.map Prod.fst ++ (drained w.readings).1.map Job.document := by
  intro documents drained
  have hstarting : Starting documents [] started := by
    have hstarts := leads_starts (P := fun _ => True) w o (fun _ _ _ _ _ _ _ _ _ _ => trivial)
      (s := { registry := before, interpreter := interpreter }) (.of_nil rfl rfl documents) trivial
    rw [Leads, hstarted] at hstarts
    exact hstarts.1
  have hjobs : (started.jobs.map Job.document).Nodup := hstarting.jobs
  obtain ⟨hnil, hperm⟩ := hreadings.drain hjobs hstarting.fresh
  refine ⟨fun rs r rs' => hreadings.mem_pipes hjobs, hnil, hjobs, hperm, fun rs rs' hrs => ?_,
    fun outcomes s hok => ?_⟩
  · simp only [drained, hrs]
    exact ⟨Selector.prefix_drain_append _ rs rs',
      fun j hj => Selector.mem_drain_watch_left hjobs hj⟩
  · obtain ⟨hrun, -⟩ := buildAll_eq_ok hok
    obtain ⟨honce, hlookup, hfiles⟩ := buildAll_outcomes rfl rfl hok
    have hattend := leads_attend w (.watch started.jobs) w.readings started
    have hrun' : (attend w (.watch started.jobs) w.readings).run started = (.ok (), s) := by
      rw [buildEach, run_bind, hstarted] at hrun
      exact hrun
    rw [Leads, hrun'] at hattend
    exact ⟨hlookup, hfiles, hattend.1, honce.outcomes, hattend.2⟩

/-- Two documents, one of them named twice. Their pipes tell in turns, and the tool that was started
last ends first. -/
theorem built_together_of_turns :
    let path (name : String) : Path := ⟨.root, ["w".toList, name.toList]⟩
    let a := path "a.tex"
    let b := path "b.tex"
    let pieces (p : Pipe) : List Text :=
      match p.channel with
      | .output => [p.document.name, "\n".toList]
      | .errors => if p.document = b then ["!".toList] else []
    let w : World :=
      { before := { cwd := ["w".toList] }
        after := {}
        refusal := fun _ => none
        exit := fun p => if p = b then 12 else 0
        elapsed := fun _ => 0
        readings :=
          [⟨b, .output, some b.name⟩, ⟨a, .output, some a.name⟩, ⟨a, .errors, none⟩,
            ⟨b, .errors, some "!".toList⟩, ⟨b, .output, some "\n".toList⟩, ⟨b, .output, none⟩,
            ⟨b, .errors, none⟩, ⟨a, .output, some "\n".toList⟩, ⟨a, .output, none⟩] }
    let named := ["a.tex", "b.tex", "./a.tex"].map fun t => Path.ofText t.toList
    let documents := named.map (Path.resolve ⟨.root, w.before.cwd⟩)
    let start : Session := { registry := ⟨{}, ⟨[], 0⟩⟩ }
    let started := ((forAll (begin w {}) documents).run start).2
    ((forAll (begin w {}) documents).run start = (.ok (), started) ∧
      Interleaving started.jobs pieces w.readings) ∧
      started.jobs.map Job.document = [a, b] ∧
      (((Selector.watch started.jobs).drain w.readings).1.map Job.document = [b, a] ∧
        ((Selector.watch started.jobs).drain w.readings).1.Perm
          (started.jobs.map (·.ended pieces))) ∧
      ∃ outcomes s, buildAll w {} named start = (.ok outcomes, s) ∧
        outcomes.map Outcome.file = [a, b, a] ∧ s.outcomes.map Prod.fst = [b, a] := by
  intro path a b pieces w named documents start started
  have hstarted : (forAll (begin w {}) documents).run start = (.ok (), started) := by
    have hok : ((forAll (begin w {}) documents).run start).1.isOk = true := by decide +kernel
    simp only [started]
    rcases hr : (forAll (begin w {}) documents).run start with ⟨_ | _, s⟩
    · rw [hr] at hok
      cases hok
    · rfl
  have hreadings : Interleaving started.jobs pieces w.readings :=
    ⟨by decide +kernel, by decide +kernel⟩
  obtain ⟨-, -, -, hperm, -, hreturns⟩ :=
    built_together w {} named ⟨{}, ⟨[], 0⟩⟩ {} pieces hstarted hreadings
  have hok : (buildAll w {} named start).1.isOk = true := by decide +kernel
  rcases hr : buildAll w {} named start with ⟨_ | outcomes, s⟩ <;> rw [hr] at hok
  · cases hok
  · obtain ⟨-, hfiles, -, -, hsettled⟩ := hreturns outcomes s hr
    have hnone : started.outcomes.map Prod.fst = [] := by decide +kernel
    have hended : ((Selector.watch started.jobs).drain w.readings).1.map Job.document = [b, a] := by
      decide +kernel
    refine ⟨⟨hstarted, hreadings⟩, by decide +kernel, ⟨hended, hperm⟩, outcomes, s, rfl, ?_, ?_⟩
    · rw [hfiles]
      decide +kernel
    · rw [hsettled, hnone, hended]
      rfl

end Typeset.Build
