import Mathlib.Data.List.Induction
import Mathlib.Data.List.Nodup
import Typeset.Build.Pipes

/-!
# Draining pipes

The tools of several documents tell by their pipes what they write, in any order. After some
readings every tool has what its own pipes told before they ended, it counts those of its pipes that
have not ended, and exactly these are still watched. The tools that were given back are those that
count no pipe.

What a selector has is given outright from what the pipes told, and one more reading takes it to
what it has then; so nothing need be assumed about the readings.

## Main definitions

* `Build.Selector.drain`: the tools in the order in which they end
* `Build.told`: what a pipe tells among readings
* `Build.Job.after`, `Build.Selector.after`: a tool and a selector once the pipes told this
* `Build.Interleaving`: readings in which every pipe tells some pieces and then its end

## Main results

* `Build.Selector.fst_hear_after`, `Build.Selector.perm_ended_hear`: the next reading
* `Build.Selector.drain_watch`: all readings
* `Build.Interleaving.drain`: once all pipes have ended, so have the tools
-/

namespace Typeset.Build

/-! ## Readings, one after another -/

namespace Selector

/-- The tools in the order in which they end, each with all that it wrote, and what is watched once
the readings are over. -/
def drain (s : Selector) : List Reading → List Job × Selector
  | [] => ([], s)
  | r :: rs =>
    let (s, ended) := s.hear r
    let (jobs, s) := s.drain rs
    (ended.toList ++ jobs, s)

theorem drain_append (s : Selector) (rs rs' : List Reading) :
    s.drain (rs ++ rs') =
      ((s.drain rs).1 ++ ((s.drain rs).2.drain rs').1, ((s.drain rs).2.drain rs').2) := by
  induction rs generalizing s with
  | nil => rfl
  | cons r rs ih => simp only [List.cons_append, drain, ih, List.append_assoc]

theorem drain_concat (s : Selector) (rs : List Reading) (r : Reading) :
    s.drain (rs ++ [r]) =
      ((s.drain rs).1 ++ ((s.drain rs).2.hear r).2.toList, ((s.drain rs).2.hear r).1) := by
  simp only [drain_append, drain, List.append_nil]

/-- What has ended after some readings stays in front of what ends later. -/
theorem prefix_drain_append (s : Selector) (rs rs' : List Reading) :
    (s.drain rs).1 <+: (s.drain (rs ++ rs')).1 := by
  rw [drain_append]
  exact List.prefix_append _ _

end Selector

/-! ## What a pipe tells -/

/-- What a pipe tells among readings. -/
def told (p : Pipe) (rs : List Reading) : List (Option Text) :=
  (rs.filter fun r => r.pipe = p).map Reading.piece

/-- The pieces that are told before the end, joined. -/
def textOf : List (Option Text) → Text
  | some t :: pieces => t ++ textOf pieces
  | _ => []

theorem told_append (p : Pipe) (rs rs' : List Reading) :
    told p (rs ++ rs') = told p rs ++ told p rs' := by
  simp [told]

theorem textOf_concat (pieces : List (Option Text)) (piece : Option Text) :
    textOf (pieces ++ [piece]) =
      textOf pieces ++ if none ∈ pieces then [] else piece.getD [] := by
  induction pieces with
  | nil => cases piece <;> simp [textOf]
  | cons x pieces ih =>
    cases x with
    | none => simp [textOf]
    | some t => simp [textOf, ih]

/-- A pipe that tells some pieces and then its end has told all of them. -/
theorem textOf_pieces (ts : List Text) : textOf (ts.map some ++ [none]) = ts.flatten := by
  induction ts with
  | nil => rfl
  | cons t ts ih => simp [textOf, ih]

variable {p : Pipe} {r : Reading} {rs rs' : List Reading} {j : Job} {jobs : List Job}

theorem told_concat (p : Pipe) (rs : List Reading) (r : Reading) :
    told p (rs ++ [r]) = told p rs ++ if r.pipe = p then [r.piece] else [] := by
  rw [told_append]
  by_cases h : r.pipe = p <;> simp [told, h]

theorem none_mem_told_concat :
    none ∈ told p (rs ++ [r]) ↔ none ∈ told p rs ∨ r.pipe = p ∧ r.piece = none := by
  rw [told_concat]
  by_cases h : r.pipe = p <;> simp [h, eq_comm]

/-- A reading of another pipe, or of one that has ended, tells nothing. -/
theorem told_concat_of_silent (h : r.pipe = p → none ∈ told p rs) :
    textOf (told p (rs ++ [r])) = textOf (told p rs) ∧
      (none ∈ told p (rs ++ [r]) ↔ none ∈ told p rs) := by
  rw [told_concat]
  by_cases hp : r.pipe = p
  · rw [if_pos hp, textOf_concat, if_pos (h hp)]
    simp [h hp]
  · simp [hp]

/-! ## What the tools have -/

/-- A tool once its pipes told this. -/
def Job.after (j : Job) (rs : List Reading) : Job where
  document := j.document
  output := j.output ++ textOf (told ⟨j.document, .output⟩ rs)
  errors := j.errors ++ textOf (told ⟨j.document, .errors⟩ rs)
  openPipes := j.pipes.countP fun p => none ∉ told p rs

namespace Job

@[simp] theorem document_after (j : Job) (rs : List Reading) :
    (j.after rs).document = j.document := rfl

theorem mem_pipes : p ∈ j.pipes ↔ p.document = j.document := by
  obtain ⟨document, _ | _⟩ := p <;> simp [pipes]

theorem openPipes_after_eq_zero :
    (j.after rs).openPipes = 0 ↔ ∀ c, none ∈ told ⟨j.document, c⟩ rs := by
  rw [after, List.countP_eq_zero]
  refine ⟨fun h c => ?_, fun h p hp => ?_⟩
  · simpa using h ⟨j.document, c⟩ (mem_pipes.mpr rfl)
  · obtain ⟨document, c⟩ := p
    obtain rfl : document = j.document := mem_pipes.mp hp
    simpa using h c

/-- A tool has what it had if none of its pipes that are watched tells anything. -/
theorem after_concat_of_silent (h : ∀ p ∈ j.pipes, r.pipe = p → none ∈ told p rs) :
    j.after (rs ++ [r]) = j.after rs := by
  have hpipe (c : Channel) := told_concat_of_silent (h ⟨j.document, c⟩ (mem_pipes.mpr rfl))
  have hcount : j.pipes.countP (fun p => none ∉ told p (rs ++ [r])) =
      j.pipes.countP fun p => none ∉ told p rs :=
    List.countP_congr fun p hp => by simp [(told_concat_of_silent (h p hp)).2]
  rw [after, hcount, (hpipe .output).1, (hpipe .errors).1, after]

theorem after_concat_of_ne (h : j.document ≠ r.document) : j.after (rs ++ [r]) = j.after rs :=
  after_concat_of_silent fun p hp hr => by
    rw [← hr] at hp
    exact absurd (mem_pipes.mp hp).symm h

section Heard

variable (hdocument : j.document = r.document) (hopen : none ∉ told r.pipe rs)
include hdocument hopen

theorem openPipes_after_ne_zero : (j.after rs).openPipes ≠ 0 := fun h =>
  hopen (by simpa [hdocument, Reading.pipe] using openPipes_after_eq_zero.mp h r.channel)

/-- A piece that a watched pipe tells is kept. -/
theorem after_concat_piece {t : Text} (hpiece : r.piece = some t) :
    j.after (rs ++ [r]) = (j.after rs).write t r.channel := by
  obtain ⟨document, channel, piece⟩ := r
  obtain rfl : j.document = document := hdocument
  cases channel <;>
    simp_all [after, write, pipes, told_concat, textOf_concat, Reading.pipe, List.countP_cons]

/-- The end of a watched pipe is counted. -/
theorem after_concat_end (hpiece : r.piece = none) : j.after (rs ++ [r]) = (j.after rs).close := by
  obtain ⟨document, channel, piece⟩ := r
  obtain rfl : j.document = document := hdocument
  cases channel <;>
    simp_all [after, close, pipes, told_concat, textOf_concat, Reading.pipe, List.countP_cons]

end Heard

end Job

/-! ## What is watched -/

namespace Selector

/-- A selector that watches some tools, once their pipes told this. -/
def after (jobs : List Job) (rs : List Reading) : Selector where
  jobs := jobs.map (·.after rs)
  pipes := (jobs.flatMap Job.pipes).filter fun p => none ∉ told p rs

/-- The tools that count no pipe. -/
def ended (s : Selector) : List Job := s.jobs.filter (·.openPipes = 0)

theorem after_nil (jobs : List Job) : after jobs [] = watch jobs := by
  simp [after, watch, Job.after, told, textOf]

theorem mem_pipes_after :
    p ∈ (after jobs rs).pipes ↔ p ∈ jobs.flatMap Job.pipes ∧ none ∉ told p rs := by
  simp [after]

theorem nodup_pipes (hjobs : (jobs.map Job.document).Nodup) :
    (jobs.flatMap Job.pipes).Nodup := by
  rw [List.nodup_flatMap]
  refine ⟨fun j _ => by simp [Job.pipes], ?_⟩
  refine (List.pairwise_map.mp hjobs).imp fun {j j'} hne p hp hp' => hne ?_
  rw [← Job.mem_pipes.mp hp, ← Job.mem_pipes.mp hp']

/-- What a reading changes, it changes at the tool of its document. -/
theorem jobs_update_after {f : Job → Job}
    (hf : ∀ j : Job, j.document = r.document → j.after (rs ++ [r]) = f (j.after rs)) :
    ((after jobs rs).update r.document f).jobs = (after jobs (rs ++ [r])).jobs := by
  rw [update, after, after, List.map_map]
  refine List.map_congr_left fun j _ => ?_
  by_cases h : j.document = r.document
  · exact (if_pos h).trans (hf j h).symm
  · exact (if_neg h).trans (Job.after_concat_of_ne h).symm

/-- The next reading takes the tools and the watched pipes to what they are then. A pipe that ends
is watched no longer, and its tool counts one less; where a pipe tells a piece, its tool has that
piece more. -/
theorem fst_hear_after (hjobs : (jobs.map Job.document).Nodup) (r : Reading) :
    ((after jobs rs).hear r).1 = after jobs (rs ++ [r]) := by
  by_cases hp : r.pipe ∈ (after jobs rs).pipes
  · have hopen : none ∉ told r.pipe rs := (mem_pipes_after.mp hp).2
    rw [hear, if_pos hp]
    cases hpiece : r.piece with
    | none =>
      have hnodup : (after jobs rs).pipes.Nodup := (nodup_pipes hjobs).filter _
      have hpipes : (after jobs rs).pipes.erase r.pipe = (after jobs (rs ++ [r])).pipes := by
        rw [hnodup.erase_eq_filter, after, after, List.filter_filter]
        refine List.filter_congr fun p _ => ?_
        rcases eq_or_ne p r.pipe with rfl | hne
        · simp [none_mem_told_concat, hpiece]
        · simp [none_mem_told_concat, hne, hne.symm]
      exact congrArg₂ Selector.mk
        (jobs_update_after fun j h => Job.after_concat_end h hopen hpiece) hpipes
    | some t =>
      have hpipes : (after jobs rs).pipes = (after jobs (rs ++ [r])).pipes :=
        List.filter_congr fun p _ => by simp [none_mem_told_concat, hpiece]
      exact congrArg₂ Selector.mk
        (jobs_update_after fun j h => Job.after_concat_piece h hopen hpiece) hpipes
  · have hsilent (j : Job) (hj : j ∈ jobs) (p : Pipe) (hpj : p ∈ j.pipes) (hr : r.pipe = p) :
        none ∈ told p rs := by
      refine Classical.not_not.mp fun hopen => hp (hr ▸ mem_pipes_after.mpr ⟨?_, hopen⟩)
      exact List.mem_flatMap.mpr ⟨j, hj, hpj⟩
    rw [hear, if_neg hp]
    have htools : jobs.map (·.after rs) = jobs.map (·.after (rs ++ [r])) :=
      List.map_congr_left fun j hj => (Job.after_concat_of_silent (hsilent j hj)).symm
    have hpipes : (after jobs rs).pipes = (after jobs (rs ++ [r])).pipes := by
      refine List.filter_congr fun p hpj => ?_
      obtain ⟨j, hj, hpj⟩ := List.mem_flatMap.mp hpj
      simp [(told_concat_of_silent (hsilent j hj p hpj)).2]
    exact congrArg₂ Selector.mk htools hpipes

/-- Of the tools that a reading leaves without a pipe to count, at most that of its document did
count one before. The reading is of a pipe of one tool at most. -/
theorem perm_ended_concat (hjobs : (jobs.map Job.document).Nodup) (hopen : none ∉ told r.pipe rs) :
    (after jobs (rs ++ [r])).ended.Perm ((after jobs rs).ended ++
      ((after jobs (rs ++ [r])).jobs.find? fun j =>
        j.document = r.document && j.openPipes = 0).toList) := by
  simp only [ended, after]
  induction jobs with
  | nil => exact .refl _
  | cons j js ih =>
    obtain ⟨hnew, hjs⟩ := List.nodup_cons.mp hjobs
    rw [List.map_cons, List.map_cons]
    by_cases h : j.document = r.document
    · have hne (j' : Job) (hj' : j' ∈ js) : j'.document ≠ r.document :=
        fun h' => hnew (List.mem_map.mpr ⟨j', hj', h'.trans h.symm⟩)
      have hrest : js.map (·.after (rs ++ [r])) = js.map (·.after rs) :=
        List.map_congr_left fun j' hj' => Job.after_concat_of_ne (hne j' hj')
      have hcounted : (j.after rs).openPipes ≠ 0 := Job.openPipes_after_ne_zero h hopen
      have hnone : (js.map (·.after rs)).find? (fun j =>
          j.document = r.document && j.openPipes = 0) = none := by
        rw [List.find?_eq_none]
        intro j' hj'
        obtain ⟨j', hmem, rfl⟩ := List.mem_map.mp hj'
        simp [hne j' hmem]
      rw [hrest, List.filter_cons_of_neg (a := j.after rs) (by simpa using hcounted)]
      by_cases hended : (j.after (rs ++ [r])).openPipes = 0
      · rw [List.filter_cons_of_pos (by simpa using hended),
          List.find?_cons_of_pos (by simp [h, hended])]
        exact (List.perm_append_singleton _ _).symm
      · rw [List.filter_cons_of_neg (by simpa using hended),
          List.find?_cons_of_neg (by simp [hended]), hnone]
        simp
    · rw [Job.after_concat_of_ne h, List.find?_cons_of_neg (by simp [h])]
      by_cases hended : (j.after rs).openPipes = 0
      · simpa [List.filter_cons, hended] using ih hjs
      · simpa [List.filter_cons, hended] using ih hjs

/-- The tool that ends with a reading is the only one that has come to count no pipe. -/
theorem perm_ended_hear (hjobs : (jobs.map Job.document).Nodup) (r : Reading) :
    (after jobs (rs ++ [r])).ended.Perm
      ((after jobs rs).ended ++ ((after jobs rs).hear r).2.toList) := by
  by_cases hp : r.pipe ∈ (after jobs rs).pipes
  · have hopen : none ∉ told r.pipe rs := (mem_pipes_after.mp hp).2
    have hperm := perm_ended_concat hjobs hopen
    rw [hear, if_pos hp]
    cases hpiece : r.piece with
    | none =>
      rwa [← jobs_update_after fun j h => Job.after_concat_end h hopen hpiece] at hperm
    | some t =>
      have hopen' : none ∉ told r.pipe (rs ++ [r]) := by
        simp [none_mem_told_concat, hopen, hpiece]
      have hnone : (after jobs (rs ++ [r])).jobs.find? (fun j =>
          j.document = r.document && j.openPipes = 0) = none := by
        rw [List.find?_eq_none]
        intro j' hj'
        obtain ⟨j, -, rfl⟩ := List.mem_map.mp hj'
        by_cases h : j.document = r.document
        · simp [Job.openPipes_after_ne_zero h hopen']
        · simp [h]
      rwa [hnone] at hperm
  · have hsame : ((after jobs rs).hear r).1 = after jobs (rs ++ [r]) := fst_hear_after hjobs r
    rw [hear, if_neg hp] at hsame ⊢
    rw [← hsame]
    simp

/-- After any readings the tools and the watched pipes are what the pipes told, and the tools that
were given back are those that count no pipe. The last reading is heard by the selector of those
before it. -/
theorem drain_watch (hjobs : (jobs.map Job.document).Nodup) (rs : List Reading) :
    ((watch jobs).drain rs).2 = after jobs rs ∧
      ((watch jobs).drain rs).1.Perm (after jobs rs).ended := by
  induction rs using List.reverseRecOn with
  | nil =>
    refine ⟨(after_nil jobs).symm, ?_⟩
    rw [after_nil, ended, watch, List.filter_eq_nil_iff.mpr (by simp [Job.pipes])]
    exact .refl _
  | append_singleton rs r ih =>
    obtain ⟨hselector, hended⟩ := ih
    rw [drain_concat, hselector]
    exact ⟨fst_hear_after hjobs r, (hended.append_right _).trans (perm_ended_hear hjobs r).symm⟩

section Distinct

variable (hjobs : (jobs.map Job.document).Nodup)
include hjobs

/-- Exactly the tools of which both pipes have ended are given back, with what they wrote. -/
theorem mem_drain_watch :
    j ∈ ((watch jobs).drain rs).1 ↔
      ∃ j' ∈ jobs, j = j'.after rs ∧ ∀ c, none ∈ told ⟨j'.document, c⟩ rs := by
  rw [(drain_watch hjobs rs).2.mem_iff, ended, List.mem_filter, after, List.mem_map,
    decide_eq_true_iff]
  constructor
  · rintro ⟨⟨j', hj', rfl⟩, h0⟩
    exact ⟨j', hj', rfl, Job.openPipes_after_eq_zero.mp h0⟩
  · rintro ⟨j', hj', rfl, hended⟩
    exact ⟨⟨j', hj', rfl⟩, Job.openPipes_after_eq_zero.mpr hended⟩

theorem mem_documents_drain_watch (hj : j ∈ jobs) :
    j.document ∈ ((watch jobs).drain rs).1.map Job.document ↔
      ∀ c, none ∈ told ⟨j.document, c⟩ rs := by
  rw [List.mem_map]
  constructor
  · rintro ⟨j₁, hj₁, heq⟩
    obtain ⟨j', -, rfl, hended⟩ := (mem_drain_watch hjobs).mp hj₁
    exact heq ▸ hended
  · exact fun hended => ⟨j.after rs, (mem_drain_watch hjobs).mpr ⟨j, hj, rfl, hended⟩, rfl⟩

/-- No tool is given back twice. -/
theorem nodup_drain_watch : (((watch jobs).drain rs).1.map Job.document).Nodup := by
  have hdocuments : (after jobs rs).jobs.map Job.document = jobs.map Job.document :=
    List.map_map
  have hsublist := (List.filter_sublist (p := fun j => j.openPipes = 0)
    (l := (after jobs rs).jobs)).map Job.document
  refine (((drain_watch hjobs rs).2.map Job.document).nodup_iff).mpr (.sublist hsublist ?_)
  rwa [hdocuments]

/-- A tool that ends at all has ended once both of its pipes have, with all that it will have. Of
the tools that end, only one is the tool of its document. -/
theorem mem_drain_watch_left (hj : j ∈ ((watch jobs).drain (rs ++ rs')).1) :
    j ∈ ((watch jobs).drain rs).1 ↔ ∀ c, none ∈ told ⟨j.document, c⟩ rs := by
  obtain ⟨j₀, hj₀, rfl, -⟩ := (mem_drain_watch hjobs).mp hj
  have hfront := prefix_drain_append (watch jobs) rs rs'
  have hmem : j₀.document ∈ ((watch jobs).drain rs).1.map Job.document ↔ _ :=
    mem_documents_drain_watch hjobs hj₀
  refine Iff.trans ⟨List.mem_map_of_mem, fun h => ?_⟩ hmem
  obtain ⟨j', hj', heq⟩ := List.mem_map.mp h
  rwa [← List.inj_on_of_nodup_map (nodup_drain_watch hjobs) (hfront.subset hj') hj heq]

/-- A tool that was not given back has a pipe that is watched. -/
theorem exists_pipe_of_not_mem (hj : j ∈ jobs)
    (hnot : j.document ∉ ((watch jobs).drain rs).1.map Job.document) :
    ∃ p ∈ ((watch jobs).drain rs).2.pipes, p.document = j.document := by
  rw [mem_documents_drain_watch hjobs hj, not_forall] at hnot
  obtain ⟨c, hopen⟩ := hnot
  refine ⟨⟨j.document, c⟩, ?_, rfl⟩
  rw [(drain_watch hjobs rs).1, mem_pipes_after]
  exact ⟨List.mem_flatMap.mpr ⟨j, hj, Job.mem_pipes.mpr rfl⟩, hopen⟩

end Distinct

end Selector

/-! ## Pipes that all end -/

/-- The readings are those of some tools' pipes in any order: each pipe tells its pieces, one after
another, and then its end. -/
structure Interleaving (jobs : List Job) (pieces : Pipe → List Text) (rs : List Reading) :
    Prop where
  own : ∀ r ∈ rs, r.pipe ∈ jobs.flatMap Job.pipes
  told : ∀ p ∈ jobs.flatMap Job.pipes, told p rs = (pieces p).map some ++ [none]

/-- What a tool has when it wrote some pieces to its pipes and has ended. -/
def Job.ended (j : Job) (pieces : Pipe → List Text) : Job where
  document := j.document
  output := (pieces ⟨j.document, .output⟩).flatten
  errors := (pieces ⟨j.document, .errors⟩).flatten

namespace Interleaving

variable {pieces : Pipe → List Text} (h : Interleaving jobs pieces rs)
  (hjobs : (jobs.map Job.document).Nodup)
include h

theorem told_job (hj : j ∈ jobs) (c : Channel) :
    Build.told ⟨j.document, c⟩ rs = (pieces ⟨j.document, c⟩).map some ++ [none] :=
  h.told _ (List.mem_flatMap.mpr ⟨j, hj, Job.mem_pipes.mpr rfl⟩)

include hjobs

/-- Whatever is read is read from a pipe that is watched. What was told before a reading is what is
told at all without its end. -/
theorem mem_pipes {rs₁ rs₂ : List Reading} (hrs : rs = rs₁ ++ r :: rs₂) :
    r.pipe ∈ ((Selector.watch jobs).drain rs₁).2.pipes := by
  have hown : r.pipe ∈ jobs.flatMap Job.pipes := h.own r (by simp [hrs])
  rw [(Selector.drain_watch hjobs rs₁).1, Selector.mem_pipes_after]
  refine ⟨hown, fun hended => ?_⟩
  have htold := congrArg List.dropLast (h.told _ hown)
  rw [hrs, told_append, List.dropLast_append_of_ne_nil (by simp [Build.told]),
    List.dropLast_concat] at htold
  have hmem : none ∈ (pieces r.pipe).map some := htold ▸ List.mem_append_left _ hended
  simp at hmem

/-- In the end no pipe is watched, and every tool has been given back with all that it wrote. -/
theorem drain (hfresh : ∀ j ∈ jobs, j = { document := j.document }) :
    ((Selector.watch jobs).drain rs).2.pipes = [] ∧
      ((Selector.watch jobs).drain rs).1.Perm (jobs.map (·.ended pieces)) := by
  obtain ⟨hselector, hperm⟩ := Selector.drain_watch hjobs rs
  constructor
  · rw [hselector, Selector.after, List.filter_eq_nil_iff]
    exact fun p hp => by simp [h.told p hp]
  · have hafter : (Selector.after jobs rs).jobs = jobs.map (·.ended pieces) := by
      refine List.map_congr_left fun j hj => ?_
      have hcount : j.pipes.countP (fun p => none ∉ Build.told p rs) = 0 :=
        Job.openPipes_after_eq_zero.mpr fun c => by simp [h.told_job hj c]
      rw [Job.after, hcount, h.told_job hj, h.told_job hj, textOf_pieces, textOf_pieces,
        hfresh j hj]
      rfl
    rwa [Selector.ended, hafter, List.filter_eq_self.mpr] at hperm
    intro j hj
    obtain ⟨j, -, rfl⟩ := List.mem_map.mp hj
    rfl

end Interleaving

end Typeset.Build
