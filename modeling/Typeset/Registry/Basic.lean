import Typeset.Diagnostic

/-!
# The registry of builds

The registry knows which documents are being built and how their latest builds ended. Documents go
by the text of their path. Every change is told to those who follow the registry: the notices of a
change come one after another, the special one first.

## Main definitions

* `Registry.Record`: the state of a document that the registry knows
* `Registry`: the records, in the order in which the documents were first touched
* `Registry.start`, `Registry.finish`, `Registry.fail`, `Registry.reset`, `Registry.publish`
* `Registry.status`, `Registry.overview`: what the registry tells when asked

## Main results

* `Registry.find?_put_self`, `Registry.find?_put_of_ne`, `Registry.find?_erase_self`,
  `Registry.find?_erase_of_ne`: a change touches one document, and so for `Registry.status`
* `Registry.overview_building_iff`: the overview is `building` if some document is
-/

namespace Typeset

/-- The state of a document's build. -/
inductive BuildStatus where
  | idle
  | building
  | success
  | error
  deriving DecidableEq, Repr

/-- The word for a status. -/
def BuildStatus.label : BuildStatus → String
  | idle => "idle"
  | building => "building"
  | success => "success"
  | error => "error"

/-- An amount of seconds as it was given: a whole number or a fraction. -/
inductive Seconds where
  | whole (n : Int)
  | real (x : Float)
  deriving Repr

namespace Registry

/-- The state of a document that the registry knows: it is being built, or its build ended at some
time, well or with an error. The start is unknown if the end came without one.

A record has no room for fields that do not fit its status. An operation sets status, start, stop
and error each for itself: `FileStatus.after` says so, `status_apply` that it makes no difference,
and `FileStatus.Fits.after` that fields which are set in this way keep fitting the status. -/
inductive Record where
  | building (start : Float)
  | success (start : Option Float) (stop : Float)
  | error (start : Option Float) (stop : Float) (message : String)
  deriving Repr

namespace Record

/-- The status that a record stands for. -/
def status : Record → BuildStatus
  | building _ => .building
  | success _ _ => .success
  | error _ _ _ => .error

/-- When the latest build began. -/
def start? : Record → Option Float
  | building start => some start
  | success start _ => start
  | error start _ _ => start

/-- When the latest build ended. -/
def stop? : Record → Option Float
  | building _ => none
  | success _ stop => some stop
  | error _ stop _ => some stop

/-- Why the latest build failed. -/
def error? : Record → Option String
  | error _ _ message => some message
  | _ => none

/-- Whether the document is being built. -/
def isBuilding : Record → Bool
  | building _ => true
  | _ => false

end Record

/-- What the registry tells those who follow it. -/
inductive Notice where
  | started (file : String)
  | finished (file : String) (output : String) (elapsed : Option Seconds)
  | failed (file : String) (error : String) (output : String)
  /-- The status of one document, or of all of them at once. -/
  | statusChanged (status : BuildStatus) (file : Option String) (error : Option String)
  | diagnosticsUpdated (file : String) (diagnostics : List Diagnostic)
  deriving Repr

/-- The kinds of notices; each is a channel of its own. -/
inductive Topic where
  | started
  | finished
  | failed
  | statusChanged
  | diagnosticsUpdated
  deriving DecidableEq, Repr

namespace Topic

/-- All topics. -/
def all : List Topic := [started, finished, failed, statusChanged, diagnosticsUpdated]

/-- The name of a channel. -/
def name : Topic → String
  | started => "build-started"
  | finished => "build-finished"
  | failed => "build-failed"
  | statusChanged => "status-changed"
  | diagnosticsUpdated => "diagnostics-updated"

end Topic

/-- The channel of a notice. -/
def Notice.topic : Notice → Topic
  | started _ => .started
  | finished _ _ _ => .finished
  | failed _ _ _ => .failed
  | statusChanged _ _ _ => .statusChanged
  | diagnosticsUpdated _ _ => .diagnosticsUpdated

/-- What the registry tells about one document. -/
structure FileStatus where
  file : String
  status : BuildStatus := .idle
  start : Option Float := none
  stop : Option Float := none
  error : Option String := none
  deriving Repr

/-- What the registry tells about all documents. -/
structure Overview where
  status : BuildStatus
  buildingCount : Nat
  files : List FileStatus
  deriving Repr

end Registry

open Registry in
/-- The records of the documents, in the order in which they were first touched. -/
structure Registry where
  records : List (String × Record) := []
  deriving Repr

namespace Registry

/-- The record of a document. -/
def find? (r : Registry) (file : String) : Option Record := r.records.lookup file

/-- The list with a record for `file` in place of the old one, or at the end. -/
def putIn (file : String) (x : Record) : List (String × Record) → List (String × Record)
  | [] => [(file, x)]
  | (k, y) :: rest => if k = file then (k, x) :: rest else (k, y) :: putIn file x rest

/-- The registry with a record for a document. A new document comes last. -/
def put (r : Registry) (file : String) (x : Record) : Registry := ⟨putIn file x r.records⟩

/-- The registry without a document. -/
def erase (r : Registry) (file : String) : Registry := ⟨r.records.filter (·.1 ≠ file)⟩

/-- When the latest build of a document began. -/
def start? (r : Registry) (file : String) : Option Float := (r.find? file).bind Record.start?

/-! ## Changes -/

/-- The build of a document begins. -/
def start (r : Registry) (file : String) (now : Float) : Registry × List Notice :=
  (r.put file (.building now),
    [.started file, .statusChanged .building (some file) none])

/-- The time from the start of a build to its end, unless it is given. -/
def elapsed (given : Option Seconds) (start : Option Float) (now : Float) : Option Seconds :=
  match given with
  | some s => some s
  | none => start.map fun t => .real (now - t)

/-- The build of a document ends well. -/
def finish (r : Registry) (file output : String) (given : Option Seconds) (now : Float) :
    Registry × List Notice :=
  let start := r.start? file
  (r.put file (.success start now),
    [.finished file output (elapsed given start now), .statusChanged .success (some file) none])

/-- The build of a document fails. -/
def fail (r : Registry) (file error output : String) (now : Float) : Registry × List Notice :=
  (r.put file (.error (r.start? file) now error),
    [.failed file error output, .statusChanged .error (some file) (some error)])

/-- A document, or every document, is forgotten. -/
def reset (r : Registry) : Option String → Registry × List Notice
  | some file => (r.erase file, [.statusChanged .idle (some file) none])
  | none => ({}, [.statusChanged .idle none none])

/-- The diagnostics of a document are told; the records stay. -/
def publish (r : Registry) (file : String) (ds : List Diagnostic) : Registry × List Notice :=
  (r, [.diagnosticsUpdated file ds])

/-! ## Questions -/

/-- What is told about a document with a record. -/
def snapshot (file : String) (x : Record) : FileStatus where
  file := file
  status := x.status
  start := x.start?
  stop := x.stop?
  error := x.error?

/-- What is told about a document. -/
def status (r : Registry) (file : String) : FileStatus :=
  match r.find? file with
  | some x => snapshot file x
  | none => { file := file }

/-- Whether a document is being built. -/
def isBuilding (r : Registry) (file : String) : Bool := (r.find? file).any Record.isBuilding

/-- Whether any document is being built. -/
def isAnyBuilding (r : Registry) : Bool := r.records.any (·.2.isBuilding)

/-- What is told about all documents. -/
def overview (r : Registry) : Overview :=
  let count := r.records.countP (·.2.isBuilding)
  { status := if count = 0 then .idle else .building
    buildingCount := count
    files := r.records.map fun (file, x) => snapshot file x }

theorem lookup_putIn_self (file : String) (x : Record) (rs : List (String × Record)) :
    (putIn file x rs).lookup file = some x := by
  induction rs with
  | nil => simp [putIn]
  | cons p rs ih =>
    obtain ⟨k, y⟩ := p
    unfold putIn
    split
    · next h => simp [h]
    · next h => rw [List.lookup_cons, beq_eq_false_iff_ne.2 (Ne.symm h)]; exact ih

theorem lookup_putIn_of_ne {file other : String} (h : other ≠ file) (x : Record)
    (rs : List (String × Record)) : (putIn file x rs).lookup other = rs.lookup other := by
  have hf : (other == file) = false := beq_eq_false_iff_ne.2 h
  induction rs with
  | nil => simp only [putIn, List.lookup_cons, hf]
  | cons p rs ih =>
    obtain ⟨k, y⟩ := p
    unfold putIn
    split
    · next hk => subst hk; simp only [List.lookup_cons, hf]
    · simp only [List.lookup_cons, ih]

@[simp] theorem find?_put_self (r : Registry) (file : String) (x : Record) :
    (r.put file x).find? file = some x := lookup_putIn_self file x r.records

theorem find?_put_of_ne (r : Registry) {file other : String} (h : other ≠ file) (x : Record) :
    (r.put file x).find? other = r.find? other := lookup_putIn_of_ne h x r.records

@[simp] theorem find?_erase_self (r : Registry) (file : String) :
    (r.erase file).find? file = none := by
  rw [find?, List.lookup_eq_none_iff]
  intro p hp
  have hne : p.1 ≠ file := by simpa using (List.mem_filter.1 hp).2
  exact bne_iff_ne.2 hne.symm

theorem find?_erase_of_ne (r : Registry) {file other : String} (h : other ≠ file) :
    (r.erase file).find? other = r.find? other := by
  rw [find?, find?, erase]
  induction r.records with
  | nil => rfl
  | cons p rs ih =>
    obtain ⟨k, y⟩ := p
    by_cases hk : k = file
    · subst hk
      rw [List.filter_cons_of_neg (by simp), ih, List.lookup_cons, beq_eq_false_iff_ne.2 h]
    · rw [List.filter_cons_of_pos (by simpa using hk), List.lookup_cons, List.lookup_cons, ih]

@[simp] theorem status_put_self (r : Registry) (file : String) (x : Record) :
    (r.put file x).status file = snapshot file x := by
  rw [status, find?_put_self]

theorem status_put_of_ne (r : Registry) {file other : String} (h : other ≠ file) (x : Record) :
    (r.put file x).status other = r.status other := by
  rw [status, find?_put_of_ne r h, status]

@[simp] theorem status_erase_self (r : Registry) (file : String) :
    (r.erase file).status file = { file := file } := by
  rw [status, find?_erase_self]

theorem status_erase_of_ne (r : Registry) {file other : String} (h : other ≠ file) :
    (r.erase file).status other = r.status other := by
  rw [status, find?_erase_of_ne r h, status]

theorem overview_building_iff (r : Registry) :
    r.overview.status = .building ↔ r.isAnyBuilding := by
  simp only [overview, isAnyBuilding]
  constructor
  · intro h
    split at h
    · cases h
    · next hc =>
      obtain ⟨p, hp, hb⟩ := List.countP_pos_iff.1 (Nat.pos_of_ne_zero hc)
      exact List.any_eq_true.2 ⟨p, hp, hb⟩
  · intro h
    obtain ⟨p, hp, hb⟩ := List.any_eq_true.1 h
    have : r.records.countP (·.2.isBuilding) ≠ 0 :=
      Nat.pos_iff_ne_zero.1 (List.countP_pos_iff.2 ⟨p, hp, hb⟩)
    simp [this]

end Registry

end Typeset
