import Typeset.Registry.Hub

/-!
# What an operation changes

An operation is on one document, or on all of them at once. It leaves the records of the other
documents as they are, and its notices are about the documents that it is on. What it does to a
document depends on the record of that document and on the time, and on the time only if it reads
the clock.

## Main definitions

* `Registry.Operation.file?`, `Registry.Notice.file?`: the document of an operation, and of a notice
* `Registry.Clock.tick`: the time that an operation is shown

## Main results

* `Registry.find?_apply_of_ne`, `Registry.file?_of_mem_notices`: an operation leaves the other
  documents alone
* `Registry.apply_congr`: what an operation does to its document
* `Registry.perform_eq_tick`: an operation at the time that it is shown
-/

namespace Typeset.Registry

open Events (Effect)

variable {file other : String} {op : Operation}

/-! ## The document of an operation -/

/-- The document that an operation is on. -/
def Operation.file? : Operation → Option String
  | start file => some file
  | finish file _ _ => some file
  | fail file _ _ => some file
  | reset file => file
  | publish file _ => some file
  | dispose => none

/-- The document that a notice is about; a notice about all documents at once names none. -/
def Notice.file? : Notice → Option String
  | started file => some file
  | finished file _ _ => some file
  | failed file _ _ => some file
  | statusChanged _ file _ => file
  | diagnosticsUpdated file _ => some file

theorem find?_apply_of_ne (r : Registry) (now : Float) (hop : op.file? = some file)
    (h : other ≠ file) : (op.apply r now).1.find? other = r.find? other := by
  cases op with
  | reset f =>
    obtain rfl : f = some file := hop
    exact find?_erase_of_ne _ h
  | publish => rfl
  | dispose => cases hop
  | _ =>
    obtain rfl := Option.some.inj hop
    exact find?_put_of_ne _ h _

/-- The notices of an operation are about the document that it is on. -/
theorem file?_of_mem_notices {r : Registry} {now : Float} {n : Notice}
    (hn : n ∈ (op.apply r now).2) : n.file? = op.file? := by
  have of_pair {a b : Notice} {f : Option String} (ha : a.file? = f) (hb : b.file? = f)
      (hn : n ∈ [a, b]) : n.file? = f := by
    rcases List.mem_cons.mp hn with rfl | hn
    · exact ha
    · exact List.mem_singleton.mp hn ▸ hb
  cases op with
  | start => exact of_pair rfl rfl hn
  | finish => exact of_pair rfl rfl hn
  | fail => exact of_pair rfl rfl hn
  | reset f =>
    cases f with
    | none => exact List.mem_singleton.mp hn ▸ rfl
    | some f => exact List.mem_singleton.mp hn ▸ rfl
  | publish => exact List.mem_singleton.mp hn ▸ rfl
  | dispose => cases hn

/-- The time does not matter to an operation that does not read it. -/
theorem apply_of_not_readsClock (r : Registry) (h : op.readsClock = false) (now now' : Float) :
    op.apply r now = op.apply r now' := by
  cases op with
  | reset | publish | dispose => rfl
  | start | finish | fail => cases h

/-- An operation does the same to a document, and gives out the same notices, in all registries that
have the same record of it. -/
theorem apply_congr {r r' : Registry} (now : Float) (hop : ∀ f ∈ op.file?, f = file)
    (h : r'.find? file = r.find? file) :
    (op.apply r' now).1.find? file = (op.apply r now).1.find? file ∧
      (op.apply r' now).2 = (op.apply r now).2 := by
  have hstart : r'.start? file = r.start? file := by rw [Registry.start?, h, Registry.start?]
  cases op with
  | start f =>
    obtain rfl := hop f rfl
    exact ⟨by simp [Operation.apply, start], rfl⟩
  | finish f output given =>
    obtain rfl := hop f rfl
    exact ⟨by simp [Operation.apply, finish, hstart], by simp [Operation.apply, finish, hstart]⟩
  | fail f error output =>
    obtain rfl := hop f rfl
    exact ⟨by simp [Operation.apply, fail, hstart], rfl⟩
  | reset f =>
    cases f with
    | none => exact ⟨rfl, rfl⟩
    | some f =>
      obtain rfl := hop f rfl
      exact ⟨by simp [Operation.apply, reset], rfl⟩
  | publish => exact ⟨h, rfl⟩
  | dispose => exact ⟨rfl, rfl⟩

/-! ## Operations and the clock -/

/-- The time that an operation is shown, and the clock afterwards. -/
def Clock.tick (c : Clock) (op : Operation) : Float × Clock :=
  if op.readsClock then c.read else (c.shown, c)

/-- An operation is done at the time that it is shown. Only disposing is more than giving out
notices. -/
theorem perform_eq_tick (t : Timed) (hop : op ≠ .dispose) :
    t.perform op =
      (⟨(op.apply t.registry (t.clock.tick op).1).1, (t.clock.tick op).2⟩,
        (op.apply t.registry (t.clock.tick op).1).2.map fun n => Effect.emit n.topic n) := by
  cases op with
  | dispose => exact absurd rfl hop
  | _ => rfl

namespace Timed

theorem find?_perform_of_ne (t : Timed) (hop : op.file? = some file) (h : other ≠ file) :
    (t.perform op).1.registry.find? other = t.registry.find? other :=
  find?_apply_of_ne t.registry _ hop h

theorem find?_foldl_perform_of_ne {ops : List Operation}
    (hops : ∀ op ∈ ops, op.file? = some file) (h : other ≠ file) (t : Timed) :
    (ops.foldl (fun t op => (t.perform op).1) t).registry.find? other = t.registry.find? other := by
  induction ops generalizing t with
  | nil => rfl
  | cons op ops ih =>
    obtain ⟨hop, hops⟩ := List.forall_mem_cons.mp hops
    rw [List.foldl_cons, ih hops, find?_perform_of_ne t hop h]

theorem status_perform_finish (t : Timed) (file output : String) (given : Option Seconds) :
    ((t.perform (.finish file output given)).1.registry.status file).status = .success :=
  congrArg FileStatus.status (status_put_self _ _ _)

theorem status_perform_fail (t : Timed) (file error output : String) :
    ((t.perform (.fail file error output)).1.registry.status file).status = .error ∧
      ((t.perform (.fail file error output)).1.registry.status file).error = some error :=
  ⟨congrArg FileStatus.status (status_put_self _ _ _),
    congrArg FileStatus.error (status_put_self _ _ _)⟩

theorem find?_perform_reset (t : Timed) (file : String) :
    (t.perform (.reset (some file))).1.registry.find? file = none := find?_erase_self _ _

end Timed

theorem status_of_isBuilding {r : Registry} (h : r.isBuilding file) :
    (r.status file).status = .building := by
  rw [isBuilding] at h
  rw [status]
  cases hx : r.find? file with
  | none => simp [hx] at h
  | some x =>
    rw [hx] at h
    cases x with
    | building => rfl
    | _ => cases h

end Typeset.Registry
