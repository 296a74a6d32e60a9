import Typeset.Config.Basic
import Typeset.Diagnostic.Record

/-!
# Linter messages

A linter gets the diagnostics that the configuration lets through, each of them once: of
diagnostics that agree in severity, file, start and text, the first is taken.

## Main definitions

* `Lint.messages`: the messages for a list of diagnostics
* `Lint.Message.record`: a message as data
* `Lint.deliver`: what becomes of diagnostics on their way to a linter

## Main results

* `Lint.kept_keys_nodup`: no two of the diagnostics taken share a key
-/

namespace Typeset.Lint

open Data (Value)

/-- What two diagnostics that a linter should show once agree in. -/
structure Key where
  severity : Severity
  path : Path
  start : Point
  excerpt : Text
  deriving DecidableEq, Repr

/-- The key of a diagnostic. -/
def key (d : Diagnostic) : Key := ⟨d.severity, d.location.path, d.location.span.start, d.excerpt⟩

/-- Whether the configuration holds a severity back. -/
def suppressed (o : LintOptions) : Severity → Bool
  | .error => o.suppressErrors
  | .warning => o.suppressWarnings
  | .info => o.suppressInfos

/-- The diagnostics with a key that is neither in `seen` nor the key of one before them. -/
def firsts (seen : List Key) : List Diagnostic → List Diagnostic
  | [] => []
  | d :: ds => if key d ∈ seen then firsts seen ds else d :: firsts (key d :: seen) ds

/-- The diagnostics that reach the linter. -/
def kept (o : LintOptions) (ds : List Diagnostic) : List Diagnostic :=
  firsts [] (ds.filter fun d => !suppressed o d.severity)

/-- What a linter shows of a diagnostic. -/
structure Message where
  severity : Severity
  path : Path
  span : Span
  excerpt : Text
  description : Option Text
  logRange : Option Span
  deriving DecidableEq, Repr

/-- The message for a diagnostic. -/
def message (o : LintOptions) (d : Diagnostic) : Message where
  severity := d.severity
  path := d.location.path
  span := d.location.span
  excerpt := d.excerpt
  description := d.description.filter fun t => !t.isEmpty
  logRange := if o.includeLogRange then d.logRange else none

/-- The messages for a list of diagnostics. -/
def messages (o : LintOptions) (ds : List Diagnostic) : List Message := (kept o ds).map (message o)

/-- The message as data. -/
def Message.record (m : Message) : Value :=
  .record
    ([("severity", .text m.severity.label),
        ("location", .record [("file", .text m.path.str), ("position", m.span.pair)]),
        ("excerpt", .text (Text.str m.excerpt))]
      ++ (m.description.map fun t => ("description", .text (Text.str t))).toList
      ++ (m.logRange.map fun s => ("logRange", s.pair)).toList)

/-- What becomes of diagnostics on their way to a linter. -/
inductive Delivery where
  | delivered (messages : List Message)
  /-- There is no linter to take them. -/
  | dropped (count : Nat)
  deriving DecidableEq, Repr

/-- The diagnostics on their way to a linter, which may be missing. -/
def deliver (o : LintOptions) (connected : Bool) (ds : List Diagnostic) : Delivery :=
  if connected then .delivered (messages o ds) else .dropped ds.length

/-- The warning about diagnostics that no linter took. -/
def dropWarning (count : Nat) : String :=
  "No linter sink configured; dropping " ++ toString count ++ " diagnostics"

theorem key_notMem_of_mem_firsts {seen : List Key} {ds : List Diagnostic} {d : Diagnostic}
    (h : d ∈ firsts seen ds) : key d ∉ seen := by
  induction ds generalizing seen with
  | nil => simp [firsts] at h
  | cons e ds ih =>
    unfold firsts at h
    split at h
    · exact ih h
    · next he =>
      rcases List.mem_cons.1 h with rfl | h
      · exact he
      · exact fun hd => ih h (List.mem_cons_of_mem _ hd)

theorem firsts_keys_nodup (seen : List Key) (ds : List Diagnostic) :
    ((firsts seen ds).map key).Nodup := by
  induction ds generalizing seen with
  | nil => simp [firsts]
  | cons d ds ih =>
    unfold firsts
    split
    · exact ih seen
    · simp only [List.map_cons, List.nodup_cons, List.mem_map, not_exists, not_and]
      exact ⟨fun e he hk => key_notMem_of_mem_firsts he (by simp [hk]), ih _⟩

theorem kept_keys_nodup (o : LintOptions) (ds : List Diagnostic) :
    ((kept o ds).map key).Nodup := firsts_keys_nodup _ _

end Typeset.Lint
