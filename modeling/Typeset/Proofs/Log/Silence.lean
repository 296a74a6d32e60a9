import Typeset.Proofs.Log.Form

/-!
# Silent logs

A log yields no diagnostics exactly if none of its lines behind the banner has one to give. A line
has none if it begins no message, if it announces the output file, or if it is an error whose
message only explains the error before it.

A line that has one may lie within a message and is then not read as a heading. But a message that
takes lines yields a diagnostic itself, so the first line that has one is read as a heading.

## Main definitions

* `Log.Heading.isSilent`: the headings without a diagnostic
* `Log.isSilentLine`: the lines without a diagnostic

## Main results

* `Log.isSilentLine_eq`: a line is silent if the heading that it is read as is
* `Log.found_segments_eq_nil_iff`: the lines in which nothing is found
* `Log.diagnostics_eq_nil_iff`: the logs without diagnostics
-/

namespace Typeset.Log

open Text

/-! ## Silent headings -/

/-- Whether no diagnostic belongs to the heading: it announces the output file, or it is an error
that is only help. -/
def Heading.isSilent (h : Heading) : Bool :=
  match h with
  | .output _ => true
  | .fatal _ message => isHelpText message
  | .fileLine _ _ _ message => isHelpText message
  | .box _ _ _ => false
  | .notice _ _ _ _ => false

variable (x : Context) (row : Nat) (line : Text) (rest : List Text)

/-- A silent heading yields nothing and takes no lines. -/
theorem claim_of_isSilent {h : Heading} (hs : h.isSilent) :
    (claim x row line rest h).diagnostic = none ∧ (claim x row line rest h).taken = 0 := by
  cases h with
  | output path => exact ⟨rfl, rfl⟩
  | fatal origin message =>
    have hm : isHelpText message := hs
    simp [claim, hm]
  | fileLine path n origin message =>
    have hm : isHelpText message := hs
    simp [claim, hm]
  | box => cases hs
  | notice => cases hs

/-- Any other heading yields a diagnostic. -/
theorem exists_diagnostic_of_not_isSilent {h : Heading} (hs : h.isSilent = false) :
    ∃ d, (claim x row line rest h).diagnostic = some d := by
  cases h with
  | output path => cases hs
  | fatal origin message =>
    obtain ⟨d, hd, -⟩ := claim_of_errorMessage x row line rest
      (h := .fatal origin message) rfl hs
    exact ⟨d, hd⟩
  | fileLine path n origin message =>
    obtain ⟨d, hd, -⟩ := claim_of_errorMessage x row line rest
      (h := .fileLine path n origin message) rfl hs
    exact ⟨d, hd⟩
  | box head first last => exact ⟨_, rfl⟩
  | notice source name volume message => exact ⟨_, rfl⟩

/-! ## Silent lines -/

/-- Whether the line begins no message, or announces the output file, or has the form of an error,
a fatal one if it has both, whose message is only help. -/
def isSilentLine (line : Text) : Bool :=
  !isHeading line || (Heading.output? line).isSome ||
    (((Heading.fatal? line).or (Heading.fileLine? line)).bind Heading.errorMessage?).any isHelpText

/-- A line is silent if it is read as no heading or as a silent one. -/
theorem isSilentLine_eq (line : Text) :
    isSilentLine line = (Heading.ofLine? line).all Heading.isSilent := by
  rw [isSilentLine, isHeading_eq_isSome, Heading.ofLine?]
  simp only [Heading.kinds, List.findSome?_cons, List.findSome?_nil]
  cases ho : Heading.output? line with
  | some h =>
    obtain ⟨path, rfl⟩ := Heading.eq_of_output? ho
    rfl
  | none =>
    cases hf : Heading.fatal? line with
    | some h =>
      obtain ⟨-, origin, message, rfl⟩ := eq_of_fatal? hf
      rfl
    | none =>
      cases hl : Heading.fileLine? line with
      | some h =>
        obtain ⟨path, n, origin, message, rfl⟩ := Heading.eq_of_fileLine? hl
        rfl
      | none =>
        cases hb : Heading.box? line with
        | some h =>
          obtain ⟨head, first, last, rfl⟩ := Heading.eq_of_box? hb
          rfl
        | none =>
          cases hn : Heading.notice? line with
          | some h =>
            obtain ⟨source, name, volume, message, rfl⟩ := Heading.eq_of_notice? hn
            rfl
          | none => rfl

/-! ## Silent logs -/

theorem found_cons (seg : Segment) (segs : List Segment) :
    found (seg :: segs) = seg.diagnostic?.toList ++ found segs := by
  rw [found, List.filterMap_cons]
  cases seg.diagnostic? <;> rfl

/-- Nothing is found in lines exactly if all of them are silent. As long as they are, each is a
segment of its own. -/
theorem found_segments_eq_nil_iff (lines : List Text) :
    found (segments x row lines) = [] ↔ ∀ line ∈ lines, isSilentLine line := by
  induction lines generalizing x row with
  | nil => simp [segments, segmentsFrom, found]
  | cons line rest ih =>
    rw [List.forall_mem_cons, isSilentLine_eq]
    cases hh : Heading.ofLine? line with
    | none =>
      rw [segments_cons_plain _ _ _ hh, found_cons]
      simpa [Segment.diagnostic?] using ih _ _
    | some h =>
      rw [segments_cons_message _ _ _ hh, found_cons, Option.all_some]
      cases hs : h.isSilent with
      | true =>
        obtain ⟨hd, ht⟩ := claim_of_isSilent x row line rest hs
        rw [ht, List.drop_zero]
        simpa [Segment.diagnostic?, hd] using ih _ _
      | false =>
        obtain ⟨d, hd⟩ := exists_diagnostic_of_not_isSilent x row line rest hs
        simp [Segment.diagnostic?, hd]

theorem dropRepeats_eq_nil_iff {α κ : Type} [DecidableEq κ] {key : α → κ} {as : List α} :
    dropRepeats key none as = [] ↔ as = [] := by
  cases as with
  | nil => simp [dropRepeats]
  | cons a as => simp [dropRepeats]

/-- **Silence is exact.** Whatever was read before, a log yields no diagnostics if and only if every
line behind the banner begins no message, announces the output file, or is an error that only
explains another one. -/
theorem diagnostics_eq_nil_iff (i : Interpreter) (root : Path) (log : Text) :
    (i.read root log).diagnostics = [] ↔ ∀ line ∈ (logLines log).tail, isSilentLine line := by
  have hread : (i.read root log).diagnostics = dropRepeats repeatKey none
      (found (segments ⟨root, ⟨root, []⟩⟩ 1 (logLines log).tail)) :=
    congrArg Report.diagnostics (i.read_report root log)
  rw [hread, dropRepeats_eq_nil_iff, found_segments_eq_nil_iff]

end Typeset.Log
