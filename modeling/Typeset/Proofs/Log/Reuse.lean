import Typeset.Proofs.Log.Silence

/-!
# One reader for many logs

A reader may be used for any number of logs. What it keeps of a log is forgotten when the next one
is read, so the logs before leave no trace: not in the diagnostics, whose first one is kept even if
it repeats the last one of the log before, and not in the output file. The output file is the one
that the last line announces among those lines that the scan looks at; a line that belongs to a
message above announces nothing.

## Main definitions

* `Log.announced?`: the output file that a line announces
* `Log.Segment.announced?`: the output file that the first line of a segment announces

## Main results

* `Log.Cut.output?_eq`: a segment yields the output file that its first line announces
* `Log.Interpreter.read_after`: a log is read after others as if it were the first one
-/

namespace Typeset.Log

open Text

/-! ## Announcements -/

/-- The output file that a line announces, without quotes and seen from the directory of the
document at `root`. -/
def announced? (root : Path) (line : Text) : Option Path :=
  match Heading.output? line with
  | some (.output path) => some (root.parent.resolve (.ofText (path.filter (· ≠ '"'))))
  | _ => none

/-- The output file that the first line of a segment announces. -/
def Segment.announced? (root : Path) (lines : List Text) (seg : Segment) : Option Path :=
  (lines[seg.row]?).bind (Log.announced? root)

/-- The announcement of the output file is looked for first. -/
theorem ofLine?_of_output {line : Text} {h : Heading} (hline : Heading.output? line = some h) :
    Heading.ofLine? line = some h := by
  simp [Heading.ofLine?, Heading.kinds, hline]

theorem output?_of_ofLine? {line path : Text} (h : Heading.ofLine? line = some (.output path)) :
    Heading.output? line = some (.output path) := Heading.kind_of_ofLine? h

/-- A line announces an output file if it is read as such a heading. -/
theorem announced?_eq (root : Path) (line : Text) :
    announced? root line =
      match Heading.ofLine? line with
      | some (.output path) => some (root.parent.resolve (.ofText (path.filter (· ≠ '"'))))
      | _ => none := by
  cases hout : Heading.output? line with
  | some h => rw [announced?, hout, ofLine?_of_output hout]
  | none =>
    rw [announced?, hout]
    cases hline : Heading.ofLine? line with
    | none => rfl
    | some h =>
      cases h with
      | output path =>
        rw [output?_of_ofLine? hline] at hout
        cases hout
      | _ => rfl

/-- What a message announces is what its first line announces. -/
theorem claim_output {x : Context} {row : Nat} {line : Text} {rest : List Text} {h : Heading}
    (hline : Heading.ofLine? line = some h) :
    (claim x row line rest h).output = announced? x.root line := by
  rw [announced?_eq, hline]
  cases h with
  | fatal | fileLine =>
    simp only [claim]
    split <;> rfl
  | _ => rfl

/-- A segment yields the output file that its first line announces. -/
theorem Cut.output?_eq {root : Path} {lines : List Text} {s : FileStack} {i : Nat}
    {segs : List Segment} (h : Cut root lines s i segs) {seg : Segment} (hseg : seg ∈ segs) :
    seg.output? = seg.announced? root lines := by
  obtain ⟨line, hl, ⟨hline, heq⟩ | ⟨head, s', hline, heq⟩⟩ := h.segment_eq hseg
  · rw [Segment.announced?, hl, Option.bind_some, announced?_eq, hline, heq]
    rfl
  · have hclaim : (claim ⟨root, s'⟩ seg.row line (lines.drop (seg.row + 1)) head).output =
        announced? root line := claim_output hline
    rw [Segment.announced?, hl, Option.bind_some, ← hclaim, heq]
    rfl

theorem read_output (root : Path) (log : Text) :
    (read root log).output =
      (logSegments root log).reverse.findSome? (Segment.announced? root (logLines log)) := by
  have hsegs : (logSegments root log).filterMap Segment.output? =
      (logSegments root log).filterMap (Segment.announced? root (logLines log)) :=
    List.filterMap_congr fun seg hseg => (cut_logSegments root log).output?_eq hseg
  rw [← List.getLast?_filterMap, ← hsegs]
  rfl

/-! ## Reading on -/

/-- What is found first from the end belongs to the last element that has something. -/
theorem findSome?_reverse_eq_some_iff {α β : Type} {f : α → Option β} {as : List α} {b : β} :
    as.reverse.findSome? f = some b ↔
      ∃ above a below, as = above ++ a :: below ∧ f a = some b ∧ ∀ a' ∈ below, f a' = none := by
  rw [List.findSome?_eq_some_iff]
  constructor
  · rintro ⟨before, a, after, hsplit, ha, hbefore⟩
    refine ⟨after.reverse, a, before.reverse, ?_, ha, fun a' h =>
      hbefore a' (List.mem_reverse.mp h)⟩
    rw [← List.reverse_reverse as, hsplit]
    simp
  · rintro ⟨above, a, below, rfl, ha, hbelow⟩
    exact ⟨below.reverse, a, above.reverse, by simp, ha, fun a' h =>
      hbelow a' (List.mem_reverse.mp h)⟩

namespace Interpreter

/-- Nothing is left of what a reader has kept. -/
theorem read_eq_fresh (i : Interpreter) (root : Path) (log : Text) :
    i.read root log = ({} : Interpreter).read root log := rfl

/-- **A reader may be used again.** After any logs, read by any reader, a log is read as by a fresh
one: it leaves the reader in the same state, with the diagnostics of that log alone. The statistics
count these diagnostics, in all and by severity. The output file is the one that is announced by the
last of the lines that begin a segment of this log and announce one, and there is none if none of
them does. -/
theorem read_after (i : Interpreter) (earlier : List (Path × Text)) (root : Path) (log : Text) :
    let used := earlier.foldl (fun i e => i.read e.1 e.2) i
    let latest := used.read root log
    let counts := latest.statistics
    let announced := Segment.announced? root (logLines log)
    latest = ({} : Interpreter).read root log ∧
      latest.diagnostics = (Log.read root log).diagnostics ∧
      counts.total = latest.diagnostics.length ∧
      counts.errors + counts.warnings + counts.info = counts.total ∧
      counts.errors = latest.diagnostics.countP (·.severity = .error) ∧
      counts.warnings = latest.diagnostics.countP (·.severity = .warning) ∧
      counts.info = latest.diagnostics.countP (·.severity = .info) ∧
      counts.output = latest.output ∧
      (∀ p, latest.output = some p ↔ ∃ above seg below,
        logSegments root log = above ++ seg :: below ∧ announced seg = some p ∧
          ∀ seg' ∈ below, announced seg' = none) ∧
      (latest.output = none ↔ ∀ seg ∈ logSegments root log, announced seg = none) := by
  intro used latest counts announced
  have hreport : latest.report = Log.read root log := used.read_report root log
  have houtput : latest.output = (logSegments root log).reverse.findSome? announced :=
    (congrArg Report.output hreport).trans (read_output root log)
  refine ⟨read_eq_fresh used root log, congrArg Report.diagnostics hreport, rfl,
    Diagnostic.tally_total latest.diagnostics, rfl, rfl, rfl, rfl, fun p => ?_, ?_⟩
  · rw [houtput, findSome?_reverse_eq_some_iff]
  · rw [houtput, List.findSome?_eq_none_iff]
    simp

end Interpreter

end Typeset.Log
