import Typeset.Proofs.Log.Attribution
import Typeset.Proofs.Log.LineNumber
import Typeset.Proofs.Path.Normal

/-!
# Well-formed diagnostics

Whatever a log holds, its diagnostics are well formed: their files have normal paths, their rows are
rows that a short line number can mean, and only errors are described. The paths come from the
document, from the files that the log opens and from the names in messages, all seen from the
directory of the document; the rows come from the line numbers of the log.

## Main definitions

* `Span.IsSource`: whole lines with the rows of short line numbers
* `Diagnostic.IsWellFormed`: what every diagnostic of a log has

## Main results

* `Log.FileStack.IsNormal.track`: the open files stay normal
* `Log.isWellFormed_of_claim`: a message yields a well-formed diagnostic
* `Log.diagnostics_wellFormed`: the diagnostics and the output file of any log
-/

namespace Typeset

/-! ## Source lines -/

/-- Whole lines of a source, whose rows are those of line numbers with at most nine digits. -/
structure Span.IsSource (s : Span) : Prop where
  start_nonneg : 0 ≤ s.start.row
  start_le_stop : s.start.row ≤ s.stop.row
  stop_le : s.stop.row ≤ 999999998
  start_column : s.start.column = 0
  stop_column : s.stop.column = restOfLine

/-- What every diagnostic of a log has. -/
structure Diagnostic.IsWellFormed (d : Diagnostic) : Prop where
  path : d.location.path.IsNormal
  file : d.location.file = d.location.path.name
  span : d.location.span.IsSource
  description : d.description.isSome = true → d.severity = .error
  logRange : d.logRange.isSome = true

namespace Log

open Text

theorem sourceRow_nonneg (n : Nat) : 0 ≤ sourceRow n := Int.natCast_nonneg _

theorem sourceRow_le {n : Nat} (h : n < 1000000000) : sourceRow n ≤ 999999998 := by
  unfold sourceRow
  omega

/-- A last line that is missing or stands before the first one does no harm. -/
theorem isSource_lines {first : Nat} {last : Option Nat} (hfirst : first < 1000000000)
    (hlast : ∀ n ∈ last, n < 1000000000) :
    (Span.lines (sourceRow first) (last.map sourceRow)).IsSource where
  start_nonneg := sourceRow_nonneg first
  start_le_stop := Span.start_le_stop_lines _ _
  stop_le := by
    refine Int.max_le.mpr ⟨sourceRow_le hfirst, ?_⟩
    cases last with
    | none => exact sourceRow_le hfirst
    | some n => exact sourceRow_le (hlast n rfl)
  start_column := rfl
  stop_column := rfl

theorem isSource_line {n : Nat} (h : n < 1000000000) :
    (Span.lines (sourceRow n) none).IsSource :=
  have hlast : ∀ m ∈ (none : Option Nat), m < 1000000000 := by simp
  isSource_lines h hlast

/-! ## Open files -/

/-- All open files have normal paths. -/
structure FileStack.IsNormal (s : FileStack) : Prop where
  bottom : s.bottom.IsNormal
  opened : ∀ p ∈ s.opened, p.IsNormal

namespace FileStack.IsNormal

variable {s : FileStack}

theorem current (h : s.IsNormal) : s.current.IsNormal := by
  obtain ⟨bottom, opened⟩ := s
  cases opened with
  | nil => exact h.bottom
  | cons p opened => exact h.opened p List.mem_cons_self

theorem apply (h : s.IsNormal) (mark : FileToken) : (s.apply mark).IsNormal := by
  cases mark with
  | opening name =>
    simp only [FileStack.apply]
    split
    · exact ⟨h.bottom, List.forall_mem_cons.mpr ⟨h.bottom.resolve_parent _, h.opened⟩⟩
    · exact h
  | closing => exact ⟨h.bottom, fun p hp => h.opened p (List.mem_of_mem_tail hp)⟩

/-- The files that a line opens are seen from the directory of the document. -/
theorem track (h : s.IsNormal) (line : Text) : (s.track line).IsNormal := by
  unfold FileStack.track
  induction fileTokens line generalizing s with
  | nil => exact h
  | cons mark marks ih => exact ih (h.apply mark)

end FileStack.IsNormal

/-! ## Messages -/

section Messages

variable {x : Context} {row : Nat} {line : Text} {rest : List Text} {h : Heading} {d : Diagnostic}

theorem isNormal_subject (hroot : x.root.IsNormal) (hfiles : x.files.IsNormal) (h : Heading) :
    (h.subject x).IsNormal := by
  cases h with
  | fileLine path => exact hroot.resolve_parent path
  | _ => exact hfiles.current

/-- The source lines of a message are those of its heading, of a context line, or of an input line,
and the first line if no number is read. -/
theorem isSource_of_claim (hline : Heading.ofLine? line = some h)
    (hd : d ∈ (claim x row line rest h).diagnostic) : d.location.span.IsSource := by
  have hnumbers : ∀ n ∈ h.numbers, n < 1000000000 := fun n hn =>
    (Heading.readIn_of_ofLine? hline n hn).lt
  cases h with
  | output path => cases hd
  | fatal origin message =>
    cases hm : isHelpText message with
    | true => simp [claim, hm] at hd
    | false =>
      rw [claim_fatal _ _ _ _ _ hm] at hd
      cases hd
      refine isSource_line ?_
      cases hn : (errorTail false rest).line with
      | none => decide
      | some n =>
        obtain ⟨_, -, hcontext⟩ := exists_contextLine?_of_errorTailFrom hn
        exact (readIn_of_contextLine? hcontext).lt
  | fileLine path n origin message =>
    cases hm : isHelpText message with
    | true => simp [claim, hm] at hd
    | false =>
      rw [claim_fileLine _ _ _ _ _ _ _ hm] at hd
      cases hd
      exact isSource_line (hnumbers n (by simp [Heading.numbers]))
  | box head first last =>
    cases hd
    exact isSource_lines (hnumbers first (by simp [Heading.numbers])) fun n hn =>
      hnumbers n (by simp [Heading.numbers, Option.mem_def.mp hn])
  | notice source name volume message =>
    cases hd
    refine isSource_line ?_
    cases hn : inputLine? (squeeze (noticeTail name message rest).1) with
    | none => decide
    | some n => exact (readIn_of_inputLine? hn).lt

theorem description_of_claim (hd : d ∈ (claim x row line rest h).diagnostic)
    (hdescription : d.description.isSome = true) : d.severity = .error := by
  cases h with
  | output path => cases hd
  | fatal origin message =>
    simp only [claim] at hd
    split at hd <;> cases hd
    rfl
  | fileLine path n origin message =>
    simp only [claim] at hd
    split at hd <;> cases hd
    rfl
  | box => cases hd; cases hdescription
  | notice => cases hd; cases hdescription

/-- A message that is read where all open files have normal paths yields a well-formed
diagnostic. -/
theorem isWellFormed_of_claim (hroot : x.root.IsNormal) (hfiles : x.files.IsNormal)
    (hline : Heading.ofLine? line = some h) (hd : d ∈ (claim x row line rest h).diagnostic) :
    d.IsWellFormed where
  path := by
    rw [claim_location hd]
    exact isNormal_subject hroot hfiles h
  file := by
    rw [claim_location hd]
    rfl
  span := isSource_of_claim hline hd
  description := description_of_claim hd
  logRange := by rw [claim_logRange hd, Option.isSome_some]

theorem isNormal_of_claim_output (hroot : x.root.IsNormal) {p : Path}
    (hp : p ∈ (claim x row line rest h).output) : p.IsNormal := by
  cases h with
  | output path =>
    cases hp
    exact hroot.resolve_parent _
  | fatal origin message =>
    simp only [claim] at hp
    split at hp <;> cases hp
  | fileLine path n origin message =>
    simp only [claim] at hp
    split at hp <;> cases hp
  | box | notice => cases hp

end Messages

/-! ## Whole logs -/

/-- All messages of a log are read where the open files have normal paths. The lines of a message
open no files. -/
theorem Cut.isWellFormed {root : Path} {lines : List Text} {s : FileStack} {i : Nat}
    {segs : List Segment} (h : Cut root lines s i segs) (hroot : root.IsNormal) (hs : s.IsNormal)
    {seg : Segment} (hseg : seg ∈ segs) :
    (∀ d ∈ seg.diagnostic?, d.IsWellFormed) ∧ ∀ p ∈ seg.output?, p.IsNormal := by
  induction h with
  | done => cases hseg
  | plain hl hk _ ih =>
    rcases List.mem_cons.mp hseg with rfl | hseg
    · exact ⟨by simp [Segment.diagnostic?], by simp [Segment.output?]⟩
    · exact ih (hs.track _) hseg
  | message hl hk hb hh hc _ _ ih =>
    rcases List.mem_cons.mp hseg with rfl | hseg
    · subst hc
      have hline : Heading.ofLine? _ = some _ :=
        List.findSome?_eq_some_iff.mpr ⟨_, _, _, hk, hh, hb⟩
      exact ⟨fun d hd => isWellFormed_of_claim hroot hs hline hd,
        fun p hp => isNormal_of_claim_output hroot hp⟩
    · exact ih hs hseg

theorem isNormal_absolute (cwd document : Text) :
    (absolute (.ofText ('/' :: cwd)) (.ofText document)).IsNormal :=
  Path.isNormal_resolve (Path.isAbsolute_ofText_slash cwd) (Path.isClean_ofText _)
    (Path.isClean_ofText _)

/-- **Every diagnostic is well formed.** Whatever was read before, let a log be read for a document
that is seen from some current directory. The text of the file of each diagnostic begins with a
slash, normalizing leaves it as it is, and the name of the file is what it ends with behind the last
slash. The rows are in order and within the bounds of short line numbers, from the first column to
the end of the line. Only errors have a description, and each diagnostic has a range in the log. The
output file has a normal path too.

Every line number that is read, from whatever line or text, can be converted, since it is read in a
run of at most nine digits. -/
theorem diagnostics_wellFormed (i : Interpreter) (cwd document log : Text) :
    let latest := i.read (absolute (.ofText ('/' :: cwd)) (.ofText document)) log
    (∀ d ∈ latest.diagnostics,
        d.location.path.text.head? = some '/' ∧
          Path.normalText d.location.path.text = d.location.path.text ∧
          d.location.file = takeEnd (· ≠ '/') d.location.path.text ∧
          d.location.span.IsSource ∧
          (d.description.isSome = true → d.severity = .error) ∧ d.logRange.isSome = true) ∧
      (∀ p ∈ latest.output, p.text.head? = some '/' ∧ Path.normalText p.text = p.text) ∧
      (∀ line head, Heading.ofLine? line = some head → ∀ n ∈ head.numbers, ReadIn line n) ∧
      (∀ line n, contextLine? line = some n → ReadIn line n) ∧
      ∀ t n, inputLine? t = some n → ReadIn t n := by
  intro latest
  have hroot := isNormal_absolute cwd document
  have hreport : latest.report = Log.read _ log := i.read_report _ log
  have hsegs := fun seg (hseg : seg ∈ logSegments _ log) =>
    (cut_logSegments _ log).isWellFormed hroot ⟨hroot, by simp⟩ hseg
  refine ⟨fun d hd => ?_, fun p hp => ?_, fun _ _ => Heading.readIn_of_ofLine?,
    fun _ _ => readIn_of_contextLine?, fun _ _ => readIn_of_inputLine?⟩
  · rw [show latest.diagnostics = _ from congrArg Report.diagnostics hreport] at hd
    obtain ⟨seg, hseg, hd⟩ := List.mem_filterMap.mp ((dropRepeats_sublist ..).mem hd)
    have hwell := (hsegs seg hseg).1 d hd
    exact ⟨hwell.path.head?_text, hwell.path.normalText_text,
      hwell.file.trans (hwell.path.clean.takeEnd_text hwell.path.absolute).symm, hwell.span,
      hwell.description, hwell.logRange⟩
  · rw [show latest.output = _ from congrArg Report.output hreport] at hp
    obtain ⟨seg, hseg, hp⟩ := List.mem_filterMap.mp (List.mem_of_getLast? hp)
    have hnormal := (hsegs seg hseg).2 p hp
    exact ⟨hnormal.head?_text, hnormal.normalText_text⟩

end Log

end Typeset
