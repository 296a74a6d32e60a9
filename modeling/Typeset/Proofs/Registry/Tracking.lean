import Mathlib.Data.List.DropRight
import Typeset.Proofs.Events.Executed
import Typeset.Proofs.Registry.Independence

/-!
# What a registry holds at any moment

Whatever happens to a registry, and also while listeners are called that operate it themselves, its
answers fit together: what it tells about a document is complete for its status, the documents it
lists are those that it tracks, in the order in which they came, and the three ways of asking
whether something is being built agree.

The answers are followed along the operations on the path to the moment. An operation sets fields of
one entry, and each of them leaves an entry whose fields fit its status if those that were there
before did. Records keep nothing that does not fit; that they are entries whose four fields
operations set one by one is what connects the two.

## Main definitions

* `Registry.FileStatus.after`: what is told about a document after an operation on it
* `Registry.FileStatus.Fits`: the fields fit the status
* `Registry.touchedAt`: the operation that began the tracking of a document
* `Registry.Orderly`: the answers of a registry fit together

## Main results

* `Registry.FileStatus.Fits.after`: fields that an operation sets keep fitting the status
* `Registry.status_apply`: an operation sets fields of one entry
* `Registry.Orderly.apply`: an operation keeps the answers together
* `Registry.answers_of_executes`: the answers at any moment
-/

namespace Typeset.Registry

open Events (Action Hub)

/-! ## What is told about a document -/

namespace FileStatus

/-- What is told about a document after an operation on it, with the fields that the operation
sets, each for itself. -/
def after (s : FileStatus) (now : Float) : Operation → FileStatus
  | .start _ => { s with status := .building, start := some now, stop := none, error := none }
  | .finish _ _ _ => { s with status := .success, stop := some now, error := none }
  | .fail _ error _ => { s with status := .error, stop := some now, error := some error }
  | .reset _ => { file := s.file }
  | .dispose => { file := s.file }
  | .publish _ _ => s

/-- The fields fit the status. -/
def Fits (s : FileStatus) : Prop :=
  match s.status with
  | .idle => s.start = none ∧ s.stop = none ∧ s.error = none
  | .building => s.start.isSome ∧ s.stop = none ∧ s.error = none
  | .success => s.stop.isSome ∧ s.error = none
  | .error => s.stop.isSome ∧ s.error.isSome

theorem fits_idle (file : String) : Fits { file := file } := ⟨rfl, rfl, rfl⟩

theorem Fits.after {s : FileStatus} (h : s.Fits) (now : Float) (op : Operation) :
    (s.after now op).Fits := by
  cases op with
  | start => exact ⟨rfl, rfl, rfl⟩
  | finish => exact ⟨rfl, rfl⟩
  | fail => exact ⟨rfl, rfl⟩
  | reset => exact fits_idle s.file
  | publish => exact h
  | dispose => exact fits_idle s.file

end FileStatus

@[simp] theorem file_status (r : Registry) (file : String) : (r.status file).file = file := by
  unfold status
  cases r.find? file <;> rfl

theorem start_status (r : Registry) (file : String) : (r.status file).start = r.start? file := by
  unfold status start?
  cases r.find? file <;> rfl

/-- An operation sets fields of the entries that it is on, and leaves all others as they are. -/
theorem status_apply (r : Registry) (now : Float) (op : Operation) (file : String) :
    (op.apply r now).1.status file =
      if op.isOn file then (r.status file).after now op else r.status file := by
  cases hon : op.isOn file with
  | false =>
    obtain ⟨f, hf, hne⟩ := Operation.exists_ne_of_not_isOn hon
    rw [status, find?_apply_of_ne r now hf hne]
    rfl
  | true =>
    have hfile := Operation.isOn_iff.mp hon
    rw [if_pos rfl]
    cases op with
    | start f =>
      obtain rfl := hfile f rfl
      simp [Operation.apply, start, snapshot, FileStatus.after, Record.status, Record.start?,
        Record.stop?, Record.error?]
    | finish f output given =>
      obtain rfl := hfile f rfl
      simp [Operation.apply, finish, snapshot, FileStatus.after, Record.status, Record.start?,
        Record.stop?, Record.error?, ← start_status]
    | fail f error output =>
      obtain rfl := hfile f rfl
      simp [Operation.apply, fail, snapshot, FileStatus.after, Record.status, Record.start?,
        Record.stop?, Record.error?, ← start_status]
    | reset f =>
      cases f with
      | none =>
        rw [FileStatus.after, file_status]
        rfl
      | some f =>
        obtain rfl := hfile f rfl
        simp [Operation.apply, reset, FileStatus.after]
    | publish => rfl
    | dispose =>
      rw [FileStatus.after, file_status]
      rfl

/-! ## Which documents are tracked -/

namespace Operation

/-- Whether an operation touches a document: it begins or ends a build. -/
def touches (file : String) : Operation → Bool
  | start f => f = file
  | finish f _ _ => f = file
  | fail f _ _ => f = file
  | _ => false

/-- Whether an operation forgets a document, alone or with all others. -/
def forgets (file : String) : Operation → Bool
  | reset f => f.all (· = file)
  | dispose => true
  | _ => false

end Operation

/-- The operations since a document was last forgotten. -/
def sinceForgotten (file : String) (ops : List Operation) : List Operation :=
  ops.rtakeWhile fun op => !op.forgets file

/-- The place, among operations, of the first one that touched a document since it was last
forgotten. -/
def touchedAt (file : String) (ops : List Operation) : Option Nat :=
  ((sinceForgotten file ops).findIdx? (Operation.touches file)).map
    (ops.length - (sinceForgotten file ops).length + ·)

theorem length_sinceForgotten_le (file : String) (ops : List Operation) :
    (sinceForgotten file ops).length ≤ ops.length := (List.rtakeWhile_suffix _ _).length_le

/-- What one more operation does to the place where the tracking of a document began. -/
theorem touchedAt_concat (file : String) (ops : List Operation) (op : Operation) :
    touchedAt file (ops ++ [op]) =
      if op.forgets file then none
      else (touchedAt file ops).or (if op.touches file then some ops.length else none) := by
  have hle := length_sinceForgotten_le file ops
  unfold touchedAt
  cases hforget : op.forgets file with
  | true =>
    have hnil : sinceForgotten file (ops ++ [op]) = [] := by
      simp [sinceForgotten, hforget]
    rw [hnil]
    rfl
  | false =>
    have hmore : sinceForgotten file (ops ++ [op]) = sinceForgotten file ops ++ [op] := by
      simp [sinceForgotten, hforget]
    have hshift : (ops ++ [op]).length - (sinceForgotten file ops ++ [op]).length =
        ops.length - (sinceForgotten file ops).length := by
      simp
    rw [hmore, hshift, List.findIdx?_append]
    cases (sinceForgotten file ops).findIdx? (Operation.touches file) with
    | some i => simp
    | none =>
      cases htouch : op.touches file with
      | true =>
        simp [htouch]
        omega
      | false => simp [htouch]

theorem touchedAt_lt {file : String} {ops : List Operation} {i : Nat}
    (h : touchedAt file ops = some i) : i < ops.length := by
  have hle := length_sinceForgotten_le file ops
  obtain ⟨j, hj, rfl⟩ := Option.map_eq_some_iff.mp h
  have hlt : j < (sinceForgotten file ops).length :=
    (List.findIdx?_eq_some_iff_getElem.mp hj).1
  omega

/-! ## Answers that fit together -/

/-- The documents that a registry tracks, in the order in which it lists them. -/
def files (r : Registry) : List String := r.records.map Prod.fst

theorem files_putIn (file : String) (x : Record) (rs : List (String × Record)) :
    (putIn file x rs).map Prod.fst =
      if file ∈ rs.map Prod.fst then rs.map Prod.fst else rs.map Prod.fst ++ [file] := by
  induction rs with
  | nil => simp [putIn]
  | cons e rs ih =>
    obtain ⟨k, y⟩ := e
    unfold putIn
    by_cases hk : k = file
    · simp [hk]
    · rw [if_neg hk, List.map_cons, ih, List.map_cons]
      by_cases hmem : file ∈ rs.map Prod.fst
      · rw [if_pos hmem, if_pos (List.mem_cons_of_mem _ hmem)]
      · rw [if_neg hmem, if_neg (List.not_mem_cons_of_ne_of_not_mem (Ne.symm hk) hmem)]
        rfl

theorem files_put (r : Registry) (file : String) (x : Record) :
    (r.put file x).files = if file ∈ r.files then r.files else r.files ++ [file] :=
  files_putIn file x r.records

theorem files_erase (r : Registry) (file : String) :
    (r.erase file).files = r.files.filter (· ≠ file) := by
  simp [files, erase, List.filter_map, Function.comp_def]

/-- An operation touches one document, which comes last if it is new, or it touches none and takes
those away that it forgets. -/
theorem files_apply_cases (r : Registry) (now : Float) (op : Operation) :
    (∃ f, (∀ g, op.touches g = decide (f = g)) ∧ (∀ g, op.forgets g = false) ∧
      (op.apply r now).1.files = if f ∈ r.files then r.files else r.files ++ [f]) ∨
    ((∀ g, op.touches g = false) ∧
      (op.apply r now).1.files = r.files.filter fun g => !op.forgets g) := by
  cases op with
  | start f => exact .inl ⟨f, fun _ => rfl, fun _ => rfl, files_put r f _⟩
  | finish f output given => exact .inl ⟨f, fun _ => rfl, fun _ => rfl, files_put r f _⟩
  | fail f error output => exact .inl ⟨f, fun _ => rfl, fun _ => rfl, files_put r f _⟩
  | reset f =>
    cases f with
    | none => exact .inr ⟨fun _ => rfl, by simp [Operation.apply, reset, files, Operation.forgets]⟩
    | some f =>
      refine .inr ⟨fun _ => rfl, (files_erase r f).trans (List.filter_congr fun g _ => ?_)⟩
      simp [Operation.forgets, eq_comm]
  | publish => exact .inr ⟨fun _ => rfl, by simp [Operation.apply, publish, Operation.forgets]⟩
  | dispose => exact .inr ⟨fun _ => rfl, by simp [Operation.apply, files, Operation.forgets]⟩

theorem mem_files_apply (r : Registry) (now : Float) (op : Operation) (file : String) :
    file ∈ (op.apply r now).1.files ↔
      op.touches file = true ∨ file ∈ r.files ∧ op.forgets file = false := by
  rcases files_apply_cases r now op with ⟨f, htouch, hforget, hfiles⟩ | ⟨htouch, hfiles⟩
  · rw [hfiles, htouch, hforget]
    by_cases hf : f ∈ r.files
    · by_cases hfile : f = file <;> simp_all
    · simp [hf, or_comm, eq_comm]
  · simp [hfiles, htouch]

/-- The answers of a registry fit together after the operations `ops`. -/
structure Orderly (ops : List Operation) (r : Registry) : Prop where
  /-- The fields of each entry fit its status. -/
  fits : ∀ file, (r.status file).Fits
  /-- Only documents that are not tracked are idle. -/
  idle : ∀ file, (r.status file).status = .idle ↔ file ∉ r.files
  /-- Those documents are tracked that were touched and not forgotten since. -/
  tracked : ∀ file, file ∈ r.files ↔ (touchedAt file ops).isSome
  /-- They are listed in the order in which they were touched. -/
  order : r.files.Pairwise fun a b =>
    ∀ i ∈ touchedAt a ops, ∀ j ∈ touchedAt b ops, i < j

theorem orderly_empty : Orderly [] {} where
  fits := FileStatus.fits_idle
  idle _ := by simp [files, status, find?]
  tracked _ := by simp [files, touchedAt, sinceForgotten]
  order := .nil

theorem Operation.of_not_isOn {op : Operation} {file : String} (h : op.isOn file = false) :
    op.touches file = false ∧ op.forgets file = false := by
  cases op <;> simp_all [isOn, file?, touches, forgets]

theorem Operation.not_forgets_of_touches (op : Operation) {file : String}
    (h : op.touches file = true) : op.forgets file = false := by
  cases op <;> simp_all [touches, forgets]

theorem FileStatus.status_after_idle (s : FileStatus) (now : Float) {op : Operation} {file : String}
    (h : op.isOn file = true) :
    (s.after now op).status = .idle ↔
      op.touches file = false ∧ (op.forgets file = true ∨ s.status = .idle) := by
  cases op <;> simp_all [Operation.isOn, Operation.file?, after, Operation.touches,
    Operation.forgets]

namespace Orderly

variable {ops : List Operation} {r : Registry}

theorem nodup (h : Orderly ops r) : r.files.Nodup := by
  refine h.order.imp_of_mem fun {a b} ha _ hlt hab => ?_
  obtain ⟨i, hi⟩ := Option.isSome_iff_exists.mp ((h.tracked a).mp ha)
  exact Nat.lt_irrefl i (hlt i hi i (hab ▸ hi))

/-- An operation keeps the answers together. The documents that are tracked keep their places, and a
new one comes behind them. -/
theorem apply (h : Orderly ops r) (now : Float) (op : Operation) :
    Orderly (ops ++ [op]) (op.apply r now).1 where
  fits file := by
    rw [status_apply]
    split
    · exact (h.fits file).after now op
    · exact h.fits file
  idle file := by
    rw [status_apply, mem_files_apply]
    cases hon : op.isOn file with
    | false =>
      obtain ⟨htouch, hforget⟩ := Operation.of_not_isOn hon
      simpa [htouch, hforget] using h.idle file
    | true =>
      rw [if_pos rfl, FileStatus.status_after_idle _ _ hon, h.idle]
      cases op.touches file <;> cases op.forgets file <;> simp
  tracked file := by
    rw [mem_files_apply, touchedAt_concat, h.tracked]
    cases htouch : op.touches file with
    | true => simp [op.not_forgets_of_touches htouch]
    | false => cases op.forgets file <;> simp
  order := by
    rcases files_apply_cases r now op with ⟨f, htouch, hforget, hfiles⟩ | ⟨htouch, hfiles⟩
    · have hplace {g : String} (hg : g ∈ r.files) :
          touchedAt g (ops ++ [op]) = touchedAt g ops := by
        obtain ⟨i, hi⟩ := Option.isSome_iff_exists.mp ((h.tracked g).mp hg)
        simp [touchedAt_concat, hforget, hi]
      have hold : r.files.Pairwise fun a b =>
          ∀ i ∈ touchedAt a (ops ++ [op]), ∀ j ∈ touchedAt b (ops ++ [op]), i < j :=
        h.order.imp_of_mem fun ha hb hlt => by rwa [hplace ha, hplace hb]
      rw [hfiles]
      split
      · exact hold
      · next hnew =>
        have hnone : touchedAt f ops = none := by simpa [h.tracked] using hnew
        have hlast : touchedAt f (ops ++ [op]) = some ops.length := by
          simp [touchedAt_concat, hforget, htouch, hnone]
        refine List.pairwise_append.mpr ⟨hold, List.pairwise_singleton _ _, ?_⟩
        intro a ha b hb i hi j hj
        obtain rfl := List.mem_singleton.mp hb
        rw [hplace ha] at hi
        obtain rfl : ops.length = j := by simpa [hlast] using hj
        exact touchedAt_lt hi
    · rw [hfiles]
      refine (h.order.filter _).imp_of_mem fun {a b} ha hb hlt => ?_
      have hstays {g : String} (hg : g ∈ r.files.filter fun g => !op.forgets g) :
          touchedAt g (ops ++ [op]) = touchedAt g ops := by
        have hforget : op.forgets g = false := by simpa using (List.mem_filter.mp hg).2
        simp [touchedAt_concat, hforget, htouch]
      rwa [hstays ha, hstays hb]

end Orderly

/-! ## The three ways of asking -/

theorem find?_eq_none_iff {r : Registry} {file : String} :
    r.find? file = none ↔ file ∉ r.files := by
  rw [find?, files, List.lookup_eq_none_iff, List.mem_map, not_exists]
  exact forall_congr' fun e => by rw [not_and, bne_iff_ne, ne_comm]

theorem find?_eq_some_of_mem {r : Registry} (h : r.files.Nodup) {file : String} {x : Record}
    (hx : (file, x) ∈ r.records) : r.find? file = some x := by
  obtain ⟨before, after, hsplit⟩ := List.append_of_mem hx
  refine List.lookup_eq_some_iff.mpr ⟨before, after, hsplit, fun e he => ?_⟩
  rw [files, hsplit, List.map_append, List.map_cons] at h
  have hne := (List.nodup_append.mp h).2.2 e.1 (List.mem_map_of_mem he) file (by simp)
  exact bne_iff_ne.mpr hne.symm

/-- The overview lists what is told about each tracked document. -/
theorem overview_files {r : Registry} (h : r.files.Nodup) :
    r.overview.files = r.files.map r.status := by
  rw [overview, files, List.map_map]
  refine List.map_congr_left fun e he => ?_
  rw [Function.comp_apply, status, find?_eq_some_of_mem h he]

/-- The overview counts the tracked documents that are being built. -/
theorem overview_buildingCount {r : Registry} (h : r.files.Nodup) :
    r.overview.buildingCount = r.files.countP r.isBuilding := by
  rw [overview, files, List.countP_map]
  refine List.countP_congr fun e he => ?_
  rw [Function.comp_apply, isBuilding, find?_eq_some_of_mem h he, Option.any_some]

theorem isAnyBuilding_iff (r : Registry) :
    r.isAnyBuilding = true ↔ 0 < r.overview.buildingCount := by
  rw [isAnyBuilding, overview, List.any_eq_true, List.countP_pos_iff]

/-! ## Any moment -/

section Moments

variable {ρ : Type}

/-- The answers fit together at every moment, since only the operations make up the state. -/
theorem orderly_of_executes {clock : Clock} {ops : List Operation}
    {hub : Hub Timed Operation Topic Notice ρ} (h : Hub.Executes machine (fresh clock) ops hub) :
    Orderly ops hub.state.registry := by
  induction h with
  | refl => exact orderly_empty
  | @operate ops mid _ op ih =>
    exact ih.apply (if op.readsClock then mid.state.clock.read else
      (mid.state.clock.shown, mid.state.clock)).1 op
  | aside _ last ih => rwa [last.state]

/-- **What a registry tells at any moment.** After the operations `ops`, of which any may have been
asked for by listeners in the middle of an emission, every document in the overview has a status
with the fields that belong to it, and it is never idle. Each tracked document is listed once, in
the order in which they were touched since they were forgotten. The number of builds is the number
of documents that are being built, and the overview says that something is being built just if that
number is positive, and just if the question for any build says so. What is told about a single
document is its entry in the list, and for any other document that it is idle.

Every run of a registry is such a path (`Hub.runEach_executes`), and so is a part of a run that ends
while listeners are being called. That the fields fit is in the type of records already. It holds of
the four fields as operations set them because of `status_apply` and `Fits.after`, by which it is
kept along the path. -/
theorem answers_of_executes {clock : Clock} {ops : List Operation}
    {hub : Hub Timed Operation Topic Notice ρ} (h : Hub.Executes machine (fresh clock) ops hub) :
    let r := hub.state.registry
    let listed := r.overview.files
    let tracked := listed.map FileStatus.file
    (∀ s ∈ listed, s.status ≠ .idle ∧ s.Fits) ∧
      tracked.Nodup ∧
      (∀ file, file ∈ tracked ↔ (touchedAt file ops).isSome) ∧
      (tracked.Pairwise fun a b => ∀ i ∈ touchedAt a ops, ∀ j ∈ touchedAt b ops, i < j) ∧
      r.overview.buildingCount = tracked.countP r.isBuilding ∧
      (∀ file, r.isBuilding file = true → file ∈ tracked) ∧
      (r.overview.status = .building ↔ 0 < r.overview.buildingCount) ∧
      (0 < r.overview.buildingCount ↔ r.isAnyBuilding = true) ∧
      (∀ s ∈ listed, r.status s.file = s) ∧
      ∀ file, file ∉ tracked → r.status file = { file := file } := by
  intro r listed tracked
  have horder : Orderly ops r := orderly_of_executes h
  have hlisted : listed = r.files.map r.status := overview_files horder.nodup
  have htracked : tracked = r.files := by simp [tracked, hlisted, Function.comp_def]
  rw [htracked]
  refine ⟨fun s hs => ?_, horder.nodup, horder.tracked, horder.order,
    overview_buildingCount horder.nodup, fun file hfile => ?_,
    (overview_building_iff r).trans (isAnyBuilding_iff r), (isAnyBuilding_iff r).symm,
    fun s hs => ?_, fun file hfile => ?_⟩
  · rw [hlisted] at hs
    obtain ⟨file, hfile, rfl⟩ := List.mem_map.mp hs
    exact ⟨fun hidle => (horder.idle file).mp hidle hfile, horder.fits file⟩
  · by_contra hnew
    rw [isBuilding, find?_eq_none_iff.mpr hnew] at hfile
    cases hfile
  · rw [hlisted] at hs
    obtain ⟨file, -, rfl⟩ := List.mem_map.mp hs
    rw [file_status]
  · rw [status, find?_eq_none_iff.mpr hfile]

/-- While a listener is called with the start of `a.tex`, all builds are forgotten and two others
are touched; the first of these is `b.tex`, so it is listed first. -/
theorem answers_inside_listener :
    let ops : List Operation := [.start "a.tex", .reset none, .start "b.tex",
      .fail "a.tex" "Exit code 1" "", .start "c.tex", .reset (some "c.tex")]
    ∃ hub : Hub Timed Operation Topic Notice Unit,
      Hub.Executes machine (fresh ⟨[1, 2, 3, 4], 0⟩) ops hub ∧
        hub.history.length = 2 ∧
        hub.state.registry.overview.files.map (fun s => (s.file, s.status)) =
          [("b.tex", .building), ("a.tex", .error)] ∧
        touchedAt "b.tex" ops = some 2 ∧ touchedAt "a.tex" ops = some 3 ∧
        touchedAt "c.tex" ops = none ∧
        hub.state.registry.overview.buildingCount = 1 ∧
        (hub.state.registry.overview.files.map FileStatus.file).Nodup ∧
        hub.state.registry.status "c.tex" = { file := "c.tex" } := by
  intro ops
  have first : Hub.Executes machine
      (fresh ⟨[1, 2, 3, 4], 0⟩ : Hub Timed Operation Topic Notice Unit) [] _ := .refl
  have called := ((first.operate (.start "a.tex")).aside (.begun _ .started (.started "a.tex"))).aside
    (.record _ (.called 0 0 (.started "a.tex")))
  have builds := ((called.operate (.reset none)).operate (.start "b.tex")).operate
    (.fail "a.tex" "Exit code 1" "")
  have path := (builds.operate (.start "c.tex")).operate (.reset (some "c.tex"))
  obtain ⟨-, hnodup, hlisted, -, -, -, -, -, -, huntracked⟩ := answers_of_executes path
  refine ⟨_, path, by decide +kernel, by decide +kernel, by decide +kernel, by decide +kernel,
    by decide +kernel, by decide +kernel, hnodup, huntracked "c.tex" ?_⟩
  rw [hlisted]
  decide +kernel

end Moments

end Typeset.Registry
