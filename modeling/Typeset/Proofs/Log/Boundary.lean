import Typeset.Proofs.Log.Partition

/-!
# Empty lines in a log

No message goes on beyond an empty line, and what a log says behind one depends on the lines before
it only through three things: the files that are open, the output file announced last, and the
diagnostic kept last. So a log can be read in pieces between its empty lines.

## Main definitions

* `Log.Carry`: what the reading of some lines hands on
* `Log.Diagnostic.below`: a diagnostic of lines that stand further down in the log

## Main results

* `Log.segmentsFrom_append_blank`: an empty line is a segment of its own
* `Log.segmentsFrom_add`: segments move with their lines
* `Log.readLines_append_blank`: a log read in two pieces
-/

namespace Typeset.Log

open Text

/-! ## Messages end at an empty line -/

theorem context_append_blank (n : Nat) (line : Text) (above below : List Text) :
    ErrorTail.context n line (above ++ [] :: below) = ErrorTail.context n line above := by
  cases above <;> rfl

/-- At an empty line the tail stops, in a snippet or not. -/
theorem errorTailFrom_append_blank (indentedOnly inSnippet : Bool) (above below : List Text) :
    errorTailFrom indentedOnly inSnippet (above ++ [] :: below) =
      errorTailFrom indentedOnly inSnippet above := by
  induction above generalizing inSnippet with
  | nil => simp [errorTailFrom, startsBlank, isBlankLine]
  | cons line above ih =>
    simp only [List.cons_append, errorTailFrom, ih, context_append_blank]

theorem noticeTail_append_blank (package : Option Text) (text : Text) (above below : List Text) :
    noticeTail package text (above ++ [] :: below) = noticeTail package text above := by
  induction above generalizing text with
  | nil => rfl
  | cons line above ih => simp only [List.cons_append, noticeTail, ih]

theorem logSpan_append (row : Nat) {taken : Nat} (line : Text) {rest : List Text}
    (more : List Text) (h : taken ≤ rest.length) :
    logSpan row taken line (rest ++ more) = logSpan row taken line rest := by
  have hlt : taken < (line :: rest).length := Nat.lt_succ_of_le h
  rw [logSpan, ← List.cons_append, List.getElem?_append_left hlt, logSpan]

theorem errorClaim_append_blank (row : Nat) (line : Text) (above below : List Text)
    (indentedOnly : Bool) (origin : Option Text) (message : Text)
    (locate : Option Nat → Location) :
    errorClaim row line (above ++ [] :: below) indentedOnly origin message locate =
      errorClaim row line above indentedOnly origin message locate := by
  have ht : errorTail indentedOnly (above ++ [] :: below) = errorTail indentedOnly above :=
    errorTailFrom_append_blank indentedOnly false above below
  simp only [errorClaim, ht, logSpan_append row line _ (errorTail_taken_le indentedOnly above)]

theorem claim_append_blank (x : Context) (row : Nat) (line : Text) (above below : List Text)
    (h : Heading) : claim x row line (above ++ [] :: below) h = claim x row line above h := by
  cases h with
  | output path => rfl
  | fatal origin message => simp only [claim, errorClaim_append_blank]
  | fileLine path n origin message => simp only [claim, errorClaim_append_blank]
  | box head first last => simp only [claim, logSpan_append row line _ (Nat.zero_le _)]
  | notice source name volume message =>
    simp only [claim, noticeTail_append_blank,
      logSpan_append row line _ (noticeTail_snd_le name message above)]

/-! ## An empty line is a segment of its own -/

/-- The files open behind segments. -/
def filesAfter (s : FileStack) (segs : List Segment) : FileStack := segs.foldl Segment.files s

/-- The lines above an empty line are cut as if they were all, and those below it are cut with the
files that are open then. Lines to skip are lines that a message above has taken, so none is left to
skip at the empty line. -/
theorem segmentsFrom_append_blank (x : Context) (row : Nat) {skip : Nat} {above : List Text}
    (below : List Text) (h : skip ≤ above.length) :
    segmentsFrom x row skip (above ++ [] :: below) =
      segmentsFrom x row skip above ++ .plain (row + above.length) [] ::
        segments { x with files := filesAfter x.files (segmentsFrom x row skip above) }
          (row + above.length + 1) below := by
  induction above generalizing x row skip with
  | nil =>
    obtain rfl := Nat.le_zero.mp h
    rfl
  | cons line above ih =>
    have hrow : row + (line :: above).length = row + 1 + above.length := by
      rw [List.length_cons]
      omega
    cases skip with
    | succ skip =>
      rw [List.cons_append, segmentsFrom, segmentsFrom, ih _ _ (Nat.le_of_succ_le_succ h), hrow]
    | zero =>
      rw [List.cons_append, segmentsFrom, segmentsFrom, hrow]
      cases hh : Heading.ofLine? line with
      | none =>
        simp only
        rw [ih _ _ (Nat.zero_le _)]
        rfl
      | some head =>
        simp only
        rw [claim_append_blank, ih _ _ (claim_taken_le ..)]
        rfl

/-! ## Moving lines down -/

/-- The part of a log that lies `n` rows further down. -/
def Span.below (n : Nat) (s : Span) : Span :=
  ⟨⟨s.start.row + n, s.start.column⟩, ⟨s.stop.row + n, s.stop.column⟩⟩

/-- The diagnostic of lines that stand `n` rows further down in the log. -/
def Diagnostic.below (n : Nat) (d : Diagnostic) : Diagnostic :=
  { d with logRange := d.logRange.map (Span.below n) }

/-- The claim of lines that stand `n` rows further down in the log. -/
def Claim.below (n : Nat) (c : Claim) : Claim :=
  { c with diagnostic := c.diagnostic.map (Diagnostic.below n) }

/-- The segment that stands `n` rows further down in the log. -/
def Segment.below (n : Nat) : Segment → Segment
  | .plain row line => .plain (row + n) line
  | .message row c => .message (row + n) (c.below n)

theorem logSpan_add (row n taken : Nat) (line : Text) (rest : List Text) :
    logSpan (row + n) taken line rest = Span.below n (logSpan row taken line rest) := by
  simp only [logSpan, Span.below, Span.mk.injEq, Point.mk.injEq, and_true]
  omega

theorem errorClaim_add (row n : Nat) (line : Text) (rest : List Text) (indentedOnly : Bool)
    (origin : Option Text) (message : Text) (locate : Option Nat → Location) :
    errorClaim (row + n) line rest indentedOnly origin message locate =
      (errorClaim row line rest indentedOnly origin message locate).below n := by
  simp only [errorClaim, logSpan_add]
  rfl

theorem claim_add (x : Context) (row n : Nat) (line : Text) (rest : List Text) (h : Heading) :
    claim x (row + n) line rest h = (claim x row line rest h).below n := by
  cases h with
  | output path => rfl
  | fatal origin message =>
    simp only [claim, errorClaim_add]
    split <;> rfl
  | fileLine path m origin message =>
    simp only [claim, errorClaim_add]
    split <;> rfl
  | box head first last =>
    simp only [claim, logSpan_add]
    rfl
  | notice source name volume message =>
    simp only [claim, logSpan_add]
    rfl

theorem segmentsFrom_add (x : Context) (row n skip : Nat) (lines : List Text) :
    segmentsFrom x (row + n) skip lines = (segmentsFrom x row skip lines).map (Segment.below n) := by
  induction lines generalizing x row skip with
  | nil => simp [segmentsFrom]
  | cons line rest ih =>
    cases skip with
    | succ skip => rw [segmentsFrom, segmentsFrom, Nat.add_right_comm, ih]
    | zero =>
      rw [segmentsFrom, segmentsFrom, Nat.add_right_comm]
      cases hh : Heading.ofLine? line with
      | none => simp only [List.map_cons, ih, Segment.below]
      | some head => simp only [List.map_cons, claim_add, ih, Segment.below, Claim.below]

theorem found_below (n : Nat) (segs : List Segment) :
    found (segs.map (Segment.below n)) = (found segs).map (Diagnostic.below n) := by
  rw [found, found, List.filterMap_map, List.map_filterMap]
  congr 1
  funext seg
  cases seg <;> rfl

theorem output?_below (n : Nat) (seg : Segment) : (seg.below n).output? = seg.output? := by
  cases seg <;> rfl

/-! ## Reading in pieces -/

/-- What the reading of some lines hands on to the lines below: the open files, the output file
announced last and the diagnostic kept last. -/
structure Carry where
  files : FileStack
  output : Option Path := none
  last : Option Diagnostic := none

namespace Carry

/-- What is handed on to the first line behind the banner. -/
def start (root : Path) : Carry := { files := ⟨root, []⟩ }

/-- The segments of the lines from `row` on. -/
def segments (k : Carry) (root : Path) (row : Nat) (lines : List Text) : List Segment :=
  Log.segments ⟨root, k.files⟩ row lines

/-- The diagnostics that are kept from segments: those that do not repeat the one before them. -/
def kept (k : Carry) (segs : List Segment) : List Diagnostic :=
  dropRepeats repeatKey (k.last.map repeatKey) (found segs)

/-- The output file announced last, once the segments are read. -/
def outputAfter (k : Carry) (segs : List Segment) : Option Path :=
  (segs.filterMap Segment.output?).getLast?.or k.output

/-- What is handed on once the segments are read. -/
def after (k : Carry) (segs : List Segment) : Carry where
  files := filesAfter k.files segs
  output := k.outputAfter segs
  last := (k.kept segs).getLast?.or k.last

theorem kept_cons_plain (k : Carry) (row : Nat) (line : Text) (segs : List Segment) :
    k.kept (.plain row line :: segs) = k.kept segs := rfl

theorem outputAfter_cons_plain (k : Carry) (row : Nat) (line : Text) (segs : List Segment) :
    k.outputAfter (.plain row line :: segs) = k.outputAfter segs := rfl

theorem kept_append (k : Carry) (segs segs' : List Segment) :
    k.kept (segs ++ segs') = k.kept segs ++ (k.after segs).kept segs' := by
  simp only [kept, after, found, List.filterMap_append, dropRepeats_append, Option.map_or]

theorem outputAfter_append (k : Carry) (segs segs' : List Segment) :
    k.outputAfter (segs ++ segs') = (k.after segs).outputAfter segs' := by
  simp only [outputAfter, after, List.filterMap_append, List.getLast?_append, Option.or_assoc]

theorem kept_below (k : Carry) (n : Nat) (segs : List Segment) :
    k.kept (segs.map (Segment.below n)) = (k.kept segs).map (Diagnostic.below n) := by
  rw [kept, found_below]
  exact dropRepeats_map (fun _ => rfl) _ _

theorem outputAfter_below (k : Carry) (n : Nat) (segs : List Segment) :
    k.outputAfter (segs.map (Segment.below n)) = k.outputAfter segs := by
  simp only [outputAfter, List.filterMap_map, Function.comp_def, output?_below]

end Carry

theorem readLines_diagnostics (root : Path) (lines : List Text) :
    (readLines root lines).diagnostics = (Carry.start root).kept (lineSegments root lines) := rfl

theorem readLines_output (root : Path) (lines : List Text) :
    (readLines root lines).output = (Carry.start root).outputAfter (lineSegments root lines) := by
  rw [Carry.outputAfter, Carry.start, Option.or_none]
  rfl

/-- **An empty line is a hard boundary.** Let `k` be what the lines above it, with the banner first,
hand on. The empty line is a plain segment of its own, between the segments of the lines above and
those of the lines below, which are cut as from `k`. The diagnostics of the lines above are a prefix
of all diagnostics; the others are those that the lines below yield from `k`, further down in the
log. The same holds of the output file. -/
theorem readLines_append_blank (root : Path) (banner : Text) (above below : List Text) :
    let lines := banner :: above
    let k := (Carry.start root).after (lineSegments root lines)
    lineSegments root (lines ++ [] :: below) =
        lineSegments root lines ++ .plain lines.length [] ::
          (k.segments root 0 below).map (Segment.below (lines.length + 1)) ∧
      (readLines root lines).diagnostics <+: (readLines root (lines ++ [] :: below)).diagnostics ∧
      (readLines root (lines ++ [] :: below)).diagnostics =
        (readLines root lines).diagnostics ++
          (k.kept (k.segments root 0 below)).map (Diagnostic.below (lines.length + 1)) ∧
      (readLines root (lines ++ [] :: below)).output =
        k.outputAfter (k.segments root 0 below) := by
  intro lines k
  have hsegs : lineSegments root (lines ++ [] :: below) =
      lineSegments root lines ++ .plain lines.length [] ::
        (k.segments root 0 below).map (Segment.below (lines.length + 1)) := by
    have h := segmentsFrom_append_blank ⟨root, ⟨root, []⟩⟩ 1 below (Nat.zero_le above.length)
    rw [Carry.segments, Log.segments, ← segmentsFrom_add, Nat.zero_add,
      show lines.length = 1 + above.length from Nat.add_comm ..]
    exact h
  have hkept : (readLines root (lines ++ [] :: below)).diagnostics =
      (readLines root lines).diagnostics ++
        (k.kept (k.segments root 0 below)).map (Diagnostic.below (lines.length + 1)) := by
    rw [readLines_diagnostics, readLines_diagnostics, hsegs, Carry.kept_append,
      Carry.kept_cons_plain, Carry.kept_below]
  refine ⟨hsegs, hkept ▸ List.prefix_append _ _, hkept, ?_⟩
  rw [readLines_output, hsegs, Carry.outputAfter_append, Carry.outputAfter_cons_plain,
    Carry.outputAfter_below]

end Typeset.Log
