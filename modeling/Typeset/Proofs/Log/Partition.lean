import Typeset.Log.Interpreter

/-!
# The cut of a log

A log is cut into segments, and the cut leaves no line out: the segments lie one behind another,
each is a line that begins no message or a message with the lines that it takes, and no message
takes more lines than the log has. The cut is described here on line numbers, with every line that
is looked at asserted to be there; the segments of a log are the only cut of its lines.

## Main definitions

* `Log.Cut`: the segments of the lines from a line number on
* `Log.Segment.rows`: the rows of a segment

## Main results

* `Log.cut_iff`: the segments are the only cut
* `Log.Cut.flatMap_rows`: every row belongs to exactly one segment
* `Log.Cut.logRange`: the range of a diagnostic is its segment
* `Log.logSegments_partition`: a log is partitioned, and its diagnostics stand in order
-/

namespace Typeset.Log

open Text

variable {root : Path} {lines : List Text}

/-! ## Unfolding the segments -/

theorem segmentsFrom_eq (x : Context) (row skip : Nat) (lines : List Text) :
    segmentsFrom x row skip lines = segments x (row + skip) (lines.drop skip) := by
  induction lines generalizing row skip with
  | nil => simp [segments, segmentsFrom]
  | cons line rest ih =>
    cases skip with
    | zero => rfl
    | succ skip =>
      rw [segmentsFrom, ih, List.drop_succ_cons, Nat.add_right_comm, Nat.add_assoc]

theorem segments_cons_plain (x : Context) (row : Nat) {line : Text} (rest : List Text)
    (h : Heading.ofLine? line = none) :
    segments x row (line :: rest) =
      .plain row line :: segments { x with files := x.files.track line } (row + 1) rest := by
  simp only [segments, segmentsFrom, h]

theorem segments_cons_message (x : Context) (row : Nat) {line : Text} (rest : List Text)
    {h : Heading} (hh : Heading.ofLine? line = some h) :
    segments x row (line :: rest) =
      .message row (claim x row line rest h) ::
        segments x (row + 1 + (claim x row line rest h).taken)
          (rest.drop (claim x row line rest h).taken) := by
  rw [segments, segmentsFrom]
  simp only [hh]
  rw [segmentsFrom_eq]

/-! ## The range of a diagnostic -/

theorem claim_fatal (x : Context) (row : Nat) (line : Text) (rest : List Text)
    (origin : Option Text) {message : Text} (h : isHelpText message = false) :
    claim x row line rest (.fatal origin message) =
      errorClaim row line rest false origin message fun n =>
        x.here (.lines (sourceRow (n.getD 0)) none) := by
  simp [claim, h]

theorem claim_fileLine (x : Context) (row : Nat) (line : Text) (rest : List Text) (path : Text)
    (n : Nat) (origin : Option Text) {message : Text} (h : isHelpText message = false) :
    claim x row line rest (.fileLine path n origin message) =
      errorClaim row line rest true origin message fun _ =>
        .ofPath (x.resolve path) (.lines (sourceRow n) none) := by
  simp [claim, h]

theorem errorClaim_logRange {row : Nat} {line : Text} {rest : List Text} {indentedOnly : Bool}
    {origin : Option Text} {message : Text} {locate : Option Nat → Location} {d : Diagnostic}
    (hd : d ∈ (errorClaim row line rest indentedOnly origin message locate).diagnostic) :
    d.logRange = some (logSpan row
      (errorClaim row line rest indentedOnly origin message locate).taken line rest) := by
  cases hd
  rfl

theorem claim_logRange {x : Context} {row : Nat} {line : Text} {rest : List Text} {h : Heading}
    {d : Diagnostic} (hd : d ∈ (claim x row line rest h).diagnostic) :
    d.logRange = some (logSpan row (claim x row line rest h).taken line rest) := by
  cases h with
  | output path => cases hd
  | fatal origin message =>
    cases hm : isHelpText message with
    | true => simp [claim, hm] at hd
    | false =>
      rw [claim_fatal _ _ _ _ _ hm] at hd ⊢
      exact errorClaim_logRange hd
  | fileLine path n origin message =>
    cases hm : isHelpText message with
    | true => simp [claim, hm] at hd
    | false =>
      rw [claim_fileLine _ _ _ _ _ _ _ hm] at hd ⊢
      exact errorClaim_logRange hd
  | box head first last =>
    cases hd
    rfl
  | notice source name volume message =>
    cases hd
    rfl

/-! ## Cuts -/

/-- The rows of a segment, from the first to the last. -/
def Segment.rows (s : Segment) : List Nat := List.range' s.row s.size

theorem drop_of_getElem? {i : Nat} {line : Text} (h : lines[i]? = some line) :
    lines.drop i = line :: lines.drop (i + 1) := by
  obtain ⟨hi, rfl⟩ := List.getElem?_eq_some_iff.mp h
  exact List.drop_eq_getElem_cons hi

/-- The segments of the lines from line `i` on, where the files of the stack are open. A line that
is of no kind is tracked. Any other line is a heading of the first kind that fits, and the message
takes lines that are there; the stack stays. -/
inductive Cut (root : Path) (lines : List Text) : FileStack → Nat → List Segment → Prop
  | done (s : FileStack) : Cut root lines s lines.length []
  | plain {s : FileStack} {i : Nat} {line : Text} {segs : List Segment}
      (hl : lines[i]? = some line) (hk : ∀ kind ∈ Heading.kinds, kind line = none)
      (rest : Cut root lines (s.track line) (i + 1) segs) :
      Cut root lines s i (.plain i line :: segs)
  | message {s : FileStack} {i : Nat} {line : Text} {segs : List Segment}
      {before after : List (Text → Option Heading)} {kind : Text → Option Heading} {h : Heading}
      {c : Claim} (hl : lines[i]? = some line) (hk : Heading.kinds = before ++ kind :: after)
      (hb : ∀ kind' ∈ before, kind' line = none) (hh : kind line = some h)
      (hc : c = claim ⟨root, s⟩ i line (lines.drop (i + 1)) h)
      (hn : i + 1 + c.taken ≤ lines.length) (rest : Cut root lines s (i + 1 + c.taken) segs) :
      Cut root lines s i (.message i c :: segs)

/-- The first segment of a cut is the one that the lines from its row on begin with. -/
theorem Cut.eq_segments {s : FileStack} {i : Nat} {segs : List Segment}
    (h : Cut root lines s i segs) : segs = segments ⟨root, s⟩ i (lines.drop i) := by
  induction h with
  | done s =>
    rw [List.drop_length]
    rfl
  | plain hl hk rest ih =>
    have hnone : Heading.ofLine? _ = none := List.findSome?_eq_none_iff.mpr hk
    rw [drop_of_getElem? hl, segments_cons_plain _ _ _ hnone, ih]
  | message hl hk hb hh hc hn rest ih =>
    have hsome : Heading.ofLine? _ = some _ :=
      List.findSome?_eq_some_iff.mpr ⟨_, _, _, hk, hh, hb⟩
    rw [drop_of_getElem? hl, segments_cons_message _ _ _ hsome, ← hc, ih, List.drop_drop]

/-- A segment takes at least one line and no more than there are, so the lines can be cut to their
end. -/
theorem cut_segments (s : FileStack) {i : Nat} (hi : i ≤ lines.length) :
    Cut root lines s i (segments ⟨root, s⟩ i (lines.drop i)) := by
  induction hn : lines.length - i using Nat.strongRecOn generalizing i s with
  | _ n ih =>
    rcases Nat.eq_or_lt_of_le hi with rfl | hlt
    · rw [List.drop_length]
      exact .done s
    · obtain ⟨line, hl⟩ : ∃ line, lines[i]? = some line :=
        ⟨lines[i], List.getElem?_eq_getElem hlt⟩
      rw [drop_of_getElem? hl]
      cases hh : Heading.ofLine? line with
      | none =>
        rw [segments_cons_plain _ _ _ hh]
        exact .plain hl (List.findSome?_eq_none_iff.mp hh) (ih _ (by omega) _ hlt rfl)
      | some h =>
        obtain ⟨before, kind, after, hk, hline, hb⟩ := List.findSome?_eq_some_iff.mp hh
        have hle : i + 1 + (claim ⟨root, s⟩ i line (lines.drop (i + 1)) h).taken ≤ lines.length := by
          have := claim_taken_le ⟨root, s⟩ i line (lines.drop (i + 1)) h
          rw [List.length_drop] at this
          omega
        rw [segments_cons_message _ _ _ hh, List.drop_drop]
        exact .message hl hk hb hline rfl hle (ih _ (by omega) _ hle rfl)

theorem cut_iff {s : FileStack} {i : Nat} {segs : List Segment} (hi : i ≤ lines.length) :
    Cut root lines s i segs ↔ segs = segments ⟨root, s⟩ i (lines.drop i) :=
  ⟨Cut.eq_segments, fun h => h ▸ cut_segments s hi⟩

namespace Cut

variable {s : FileStack} {i : Nat} {segs : List Segment}

theorem le_length (h : Cut root lines s i segs) : i ≤ lines.length := by
  cases h with
  | done => exact Nat.le_refl _
  | plain hl => exact Nat.le_of_lt (List.getElem?_eq_some_iff.mp hl).1
  | message hl => exact Nat.le_of_lt (List.getElem?_eq_some_iff.mp hl).1

/-- Every row from `i` on belongs to exactly one segment. -/
theorem flatMap_rows (h : Cut root lines s i segs) :
    segs.flatMap Segment.rows = List.range' i (lines.length - i) := by
  induction h with
  | done => simp
  | @plain _ i _ _ _ _ rest ih =>
    have hle := rest.le_length
    rw [List.flatMap_cons, ih, Segment.rows, Segment.row_plain, Segment.size_plain,
      List.range'_append_1]
    congr 1
    omega
  | @message _ i _ _ _ _ _ _ c _ _ _ _ _ _ rest ih =>
    have hle := rest.le_length
    rw [List.flatMap_cons, ih, Segment.rows, Segment.row_message, Segment.size_message,
      show i + 1 + c.taken = i + (c.taken + 1) by omega, List.range'_append_1]
    congr 1
    omega

/-- The segments lie between `i` and the end. -/
theorem bounds (h : Cut root lines s i segs) {seg : Segment} (hs : seg ∈ segs) :
    i ≤ seg.row ∧ seg.row + seg.size ≤ lines.length := by
  induction h with
  | done => cases hs
  | plain _ _ rest ih =>
    rcases List.mem_cons.mp hs with rfl | hs
    · exact ⟨Nat.le_refl _, rest.le_length⟩
    · exact ⟨Nat.le_of_succ_le (ih hs).1, (ih hs).2⟩
  | message _ _ _ _ _ hn _ ih =>
    rcases List.mem_cons.mp hs with rfl | hs
    · refine ⟨Nat.le_refl _, ?_⟩
      simp only [Segment.row_message, Segment.size_message]
      omega
    · have := ih hs
      omega

/-- Every row from `i` on lies in some segment. -/
theorem exists_mem_row (h : Cut root lines s i segs) {r : Nat} (hi : i ≤ r)
    (hr : r < lines.length) : ∃ seg ∈ segs, seg.row ≤ r ∧ r < seg.row + seg.size := by
  have hmem : r ∈ segs.flatMap Segment.rows := by
    rw [h.flatMap_rows, List.mem_range'_1]
    omega
  obtain ⟨seg, hs, hrow⟩ := List.mem_flatMap.mp hmem
  exact ⟨seg, hs, List.mem_range'_1.mp hrow⟩

/-- What a segment is follows from its first line. -/
theorem segment_eq (h : Cut root lines s i segs) {seg : Segment} (hs : seg ∈ segs) :
    ∃ line, lines[seg.row]? = some line ∧
      ((Heading.ofLine? line = none ∧ seg = .plain seg.row line) ∨
        ∃ head s', Heading.ofLine? line = some head ∧
          seg = .message seg.row
            (claim ⟨root, s'⟩ seg.row line (lines.drop (seg.row + 1)) head)) := by
  induction h with
  | done => cases hs
  | plain hl hk _ ih =>
    rcases List.mem_cons.mp hs with rfl | hs
    · exact ⟨_, hl, .inl ⟨List.findSome?_eq_none_iff.mpr hk, rfl⟩⟩
    · exact ih hs
  | message hl hk hb hh hc _ _ ih =>
    rcases List.mem_cons.mp hs with rfl | hs
    · subst hc
      exact ⟨_, hl, .inr ⟨_, _, List.findSome?_eq_some_iff.mpr ⟨_, _, _, hk, hh, hb⟩, rfl⟩⟩
    · exact ih hs

/-- Each segment ends in front of those that follow it. -/
theorem pairwise (h : Cut root lines s i segs) :
    segs.Pairwise fun a b => a.row + a.size ≤ b.row := by
  induction h with
  | done => exact .nil
  | plain _ _ rest ih => exact .cons (fun b hb => (rest.bounds hb).1) ih
  | message _ _ _ _ _ _ rest ih =>
    refine .cons (fun b hb => ?_) ih
    have := (rest.bounds hb).1
    simp only [Segment.row_message, Segment.size_message]
    omega

/-- A diagnostic ranges over its segment: from the beginning of the first line to the end of the
last one. -/
theorem logRange (h : Cut root lines s i segs) {seg : Segment} (hs : seg ∈ segs) {d : Diagnostic}
    (hd : d ∈ seg.diagnostic?) :
    ∃ last, lines[seg.row + seg.size - 1]? = some last ∧
      d.logRange = some ⟨⟨seg.row, 0⟩, ⟨(seg.row + seg.size - 1 : Nat), last.length⟩⟩ := by
  induction h with
  | done => cases hs
  | plain _ _ _ ih =>
    rcases List.mem_cons.mp hs with rfl | hs
    · cases hd
    · exact ih hs
  | @message s i line segs _ _ _ hd' c hl _ _ _ hc hn _ ih =>
    rcases List.mem_cons.mp hs with rfl | hs
    · have hlt : i + c.taken < lines.length := by omega
      have hlast : (line :: lines.drop (i + 1))[c.taken]? = some lines[i + c.taken] := by
        rw [← drop_of_getElem? hl, List.getElem?_drop, List.getElem?_eq_getElem hlt]
      refine ⟨lines[i + c.taken], List.getElem?_eq_getElem hlt, ?_⟩
      subst hc
      rw [claim_logRange hd, logSpan, hlast]
      rfl
    · exact ih hs

end Cut

/-! ## The cut of a whole log -/

theorem cut_logSegments (root : Path) (log : Text) :
    Cut root (logLines log) ⟨root, []⟩ 1 (logSegments root log) := by
  have hlen : 1 ≤ (logLines log).length := List.length_pos_iff.mpr (logLines_ne_nil log)
  rw [cut_iff hlen, List.drop_one]
  rfl

/-- The first diagnostic ends in the log above the row where the second one begins. -/
def Diagnostic.Above (d e : Diagnostic) : Prop :=
  ∃ r ∈ d.logRange, ∃ r' ∈ e.logRange, r.start.row ≤ r.stop.row ∧ r.stop.row < r'.start.row

theorem pairwise_above_found {s : FileStack} {i : Nat} {segs : List Segment}
    (h : Cut root lines s i segs) : (found segs).Pairwise Diagnostic.Above := by
  rw [found, List.pairwise_filterMap]
  refine h.pairwise.imp_of_mem fun {a b} ha hb hab d hd e he => ?_
  obtain ⟨_, _, hr⟩ := h.logRange ha hd
  obtain ⟨_, _, hr'⟩ := h.logRange hb he
  have hpos := a.size_pos
  refine ⟨_, hr, _, hr', ?_, ?_⟩ <;> simp only [Int.ofNat_le, Int.ofNat_lt] <;> omega

/-- **A log is partitioned.** Behind the banner every line belongs to exactly one segment. A
segment is a line that no kind of heading fits, which is tracked, or the lines of the message that
the first fitting kind begins. The diagnostics of the segments range over their segments, so those
of the report stand in log order, apart from one another, behind the banner. -/
theorem logSegments_partition (root : Path) (log : Text) :
    Cut root (logLines log) ⟨root, []⟩ 1 (logSegments root log) ∧
      (∀ line, isHeading line = false ↔ ∀ kind ∈ Heading.kinds, kind line = none) ∧
      (logSegments root log).flatMap Segment.rows = List.range' 1 ((logLines log).length - 1) ∧
      (∀ seg ∈ logSegments root log, 0 < seg.size ∧ ∀ d ∈ seg.diagnostic?,
        ∃ last, (logLines log)[seg.row + seg.size - 1]? = some last ∧
          d.logRange = some ⟨⟨seg.row, 0⟩, ⟨(seg.row + seg.size - 1 : Nat), last.length⟩⟩) ∧
      (read root log).diagnostics.Pairwise Diagnostic.Above ∧
      ∀ d ∈ (read root log).diagnostics, ∃ r ∈ d.logRange,
        1 ≤ r.start.row ∧ r.start.row ≤ r.stop.row ∧ r.stop.row < (logLines log).length := by
  have hcut := cut_logSegments root log
  refine ⟨hcut, fun line => isHeading_eq_false_iff, hcut.flatMap_rows,
    fun seg hs => ⟨seg.size_pos, fun d hd => hcut.logRange hs hd⟩,
    (pairwise_above_found hcut).sublist (dropRepeats_sublist ..), ?_⟩
  · intro d hd
    obtain ⟨seg, hs, hd⟩ := List.mem_filterMap.mp ((dropRepeats_sublist ..).mem hd)
    obtain ⟨_, _, hr⟩ := hcut.logRange hs hd
    have hb := hcut.bounds hs
    have := seg.size_pos
    refine ⟨_, hr, ?_, ?_, ?_⟩ <;> simp only <;> omega

end Typeset.Log
