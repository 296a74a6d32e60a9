import Typeset.Proofs.Log.ErrorTail

/-!
# Source snippets and the open files

An error shows the source around it, and source text is full of brackets and dots. It must not be
looked at for files that are opened and closed. The error takes its context line and the line that
goes on with it, so they are not tracked. A message that is only a help text takes no line at all:
what stands below it is looked at line by line, and is tracked where it is no heading.

## Main definitions

* `Log.IsTracked`: the lines of a log that are tracked
* `Log.Heading.indentedOnly`: which lines go on with the text of an error

## Main results

* `Log.Cut.apart`: the lines that a message takes are in no other segment
* `Log.snippet_tracked_iff`: source snippets are tracked only below help texts
* `Log.snippet_below_help_text`: a snippet that opens a file
-/

namespace Typeset.Log

open Text

/-- The line in row `r` of the log of `root` is tracked: it is a segment that begins no message. -/
def IsTracked (root : Path) (log : Text) (r : Nat) : Prop :=
  ∃ line, .plain r line ∈ logSegments root log

/-- Whether only indented lines go on with the text of an error, as with one that names its
file. -/
def Heading.indentedOnly : Heading → Bool
  | .fileLine _ _ _ _ => true
  | _ => false

/-- Two segments are the same, or one of them ends above the other. -/
theorem Cut.apart {root : Path} {lines : List Text} {s : FileStack} {i : Nat}
    {segs : List Segment} (h : Cut root lines s i segs) {a b : Segment} (ha : a ∈ segs)
    (hb : b ∈ segs) : a = b ∨ a.row + a.size ≤ b.row ∨ b.row + b.size ≤ a.row := by
  obtain ⟨above, below, rfl⟩ := List.append_of_mem ha
  obtain ⟨-, hbelow, habove⟩ := List.pairwise_append.mp h.pairwise
  rcases List.mem_append.mp hb with hb | hb
  · exact .inr (.inr (habove b hb a List.mem_cons_self))
  · rcases List.mem_cons.mp hb with rfl | hb
    · exact .inl rfl
    · exact .inr (.inl ((List.pairwise_cons.mp hbelow).1 b hb))

theorem claim_taken_of_help {x : Context} {row : Nat} {line : Text} {rest : List Text}
    {h : Heading} {message : Text} (hmessage : h.errorMessage? = some message)
    (hhelp : isHelpText message) : (claim x row line rest h).taken = 0 := by
  cases h with
  | fatal | fileLine =>
    cases hmessage
    simp [claim, hhelp]
  | _ => cases hmessage

theorem claim_taken_of_error {x : Context} {row : Nat} {line : Text} {rest : List Text}
    {h : Heading} {message : Text} (hmessage : h.errorMessage? = some message)
    (hhelp : isHelpText message = false) :
    (claim x row line rest h).taken = (errorTail h.indentedOnly rest).taken := by
  cases h with
  | fatal origin message =>
    cases hmessage
    rw [claim_fatal _ _ _ _ _ hhelp]
    rfl
  | fileLine path n origin message =>
    cases hmessage
    rw [claim_fileLine _ _ _ _ _ _ _ hhelp]
    rfl
  | _ => cases hmessage

section Error

variable {root : Path} {log : Text} {j : Nat} {c : Claim} {above : Text} {h : Heading}
  {message : Text}

/-- A segment is what the line in its row begins. -/
theorem segment_of_line {seg : Segment} (hs : seg ∈ logSegments root log) {line : Text}
    (hline : (logLines log)[seg.row]? = some line) :
    (Heading.ofLine? line = none ∧ seg = .plain seg.row line) ∨
      ∃ head s, Heading.ofLine? line = some head ∧
        seg = .message seg.row
          (claim ⟨root, s⟩ seg.row line ((logLines log).drop (seg.row + 1)) head) := by
  obtain ⟨first, hfirst, hsegment⟩ := (cut_logSegments root log).segment_eq hs
  obtain rfl : first = line := Option.some.inj (hfirst.symm.trans hline)
  exact hsegment

/-- The claim of a message is that of the heading in its first line. -/
theorem exists_claim_of_message (hseg : .message j c ∈ logSegments root log)
    (habove : (logLines log)[j]? = some above) (hh : Heading.ofLine? above = some h) :
    ∃ s, c = claim ⟨root, s⟩ j above ((logLines log).drop (j + 1)) h := by
  rcases segment_of_line hseg habove with ⟨-, hplain⟩ | ⟨head, s, hhead, hmessage⟩
  · cases hplain
  · obtain rfl : head = h := Option.some.inj (hhead.symm.trans hh)
    exact ⟨s, (Segment.message.inj hmessage).2⟩

/-- No line that a message takes is tracked. -/
theorem not_isTracked_of_taken (hseg : .message j c ∈ logSegments root log) {r : Nat}
    (hlt : j < r) (hle : r ≤ j + c.taken) : ¬ IsTracked root log r := by
  rintro ⟨line, hplain⟩
  rcases (cut_logSegments root log).apart hseg hplain with heq | hapart
  · cases heq
  · simp only [Segment.row_message, Segment.size_message, Segment.row_plain] at hapart
    omega

/-- Below a message that takes no line, the next line is tracked if it is no heading. The segment
that it is in begins with it. -/
theorem isTracked_succ_iff (hseg : .message j c ∈ logSegments root log) (htaken : c.taken = 0)
    {line : Text} (hline : (logLines log)[j + 1]? = some line) :
    IsTracked root log (j + 1) ↔ isHeading line = false := by
  have hcut := cut_logSegments root log
  rw [← ofLine?_eq_none_iff]
  constructor
  · rintro ⟨line', hplain⟩
    rcases segment_of_line hplain hline with ⟨hnone, -⟩ | ⟨_, _, -, hmessage⟩
    · exact hnone
    · cases hmessage
  · intro hnone
    obtain ⟨seg, hs, hle, hlt⟩ := hcut.exists_mem_row (Nat.le_add_left 1 j)
      (List.getElem?_eq_some_iff.mp hline).1
    have hrow : seg.row = j + 1 := by
      rcases hcut.apart hs hseg with rfl | hapart
      · rw [Segment.row_message, Segment.size_message, htaken] at hlt
        omega
      · simp only [Segment.row_message, Segment.size_message] at hapart
        omega
    rcases segment_of_line hs (hrow ▸ hline) with ⟨-, hplain⟩ | ⟨head, _, hsome, -⟩
    · rw [hrow] at hplain
      exact ⟨line, hplain ▸ hs⟩
    · rw [hnone] at hsome
      cases hsome

/-- **Source snippets are tracked only below help texts.** Let a message that begins in row `j` be
an error, whose tail has the number of a context line. If the error is no help text, neither that
line nor the indented line that goes on with it is tracked. A help text takes no line, so the line
right below it, which may be the context line, is tracked exactly if it is no heading. -/
theorem snippet_tracked_iff (hseg : .message j c ∈ logSegments root log)
    (habove : (logLines log)[j]? = some above) (hh : Heading.ofLine? above = some h)
    (hmessage : h.errorMessage? = some message) {n : Nat}
    (hn : (errorTail h.indentedOnly ((logLines log).drop (j + 1))).line = some n) :
    let tail := errorTail h.indentedOnly ((logLines log).drop (j + 1))
    ∃ k, tail.EndsAtContext ((logLines log).drop (j + 1)) k n ∧
      (isHelpText message = false →
        ∀ r, j + 1 + k ≤ r → r < j + 1 + tail.taken → ¬ IsTracked root log r) ∧
      (isHelpText message →
        (IsTracked root log (j + 1) ↔ (logLines log)[j + 1]?.any fun line => !isHeading line)) := by
  intro tail
  obtain ⟨k, hk⟩ := errorTail_context hn
  obtain ⟨s, rfl⟩ := exists_claim_of_message hseg habove hh
  refine ⟨k, hk, ?_, ?_⟩
  · intro hhelp r hle hlt
    have htaken : (claim ⟨root, s⟩ j above ((logLines log).drop (j + 1)) h).taken = tail.taken :=
      claim_taken_of_error hmessage hhelp
    apply not_isTracked_of_taken hseg
    · omega
    · rw [htaken]
      omega
  · intro hhelp
    have hlength : j + 1 < (logLines log).length := by
      obtain ⟨context, hcontext, -⟩ := Option.bind_eq_some_iff.mp hk.number
      rw [List.getElem?_drop] at hcontext
      have := (List.getElem?_eq_some_iff.mp hcontext).1
      omega
    obtain ⟨line, hline⟩ : ∃ line, (logLines log)[j + 1]? = some line :=
      ⟨_, List.getElem?_eq_getElem hlength⟩
    rw [isTracked_succ_iff hseg (claim_taken_of_help hmessage hhelp) hline, hline, Option.any_some,
      Bool.not_eq_true']

end Error

/-- The brackets in the source of an error that is no help text open no file. -/
theorem snippet_of_missing_number_not_tracked :
    let root := Path.ofString "/doc/main.tex"
    let log :=
      "Banner\n! Missing number.\n<to be read again>\n   x\nl.3 (part.tex\n   (b.tex\n".toList
    let above := "! Missing number.".toList
    let h := Heading.fatal none "Missing number.".toList
    (∃ c, .message 1 c ∈ logSegments root log ∧ (logLines log)[1]? = some above ∧
        Heading.ofLine? above = some h ∧ h.errorMessage? = some "Missing number.".toList ∧
        (errorTail h.indentedOnly ((logLines log).drop 2)).line = some 3) ∧
      isHelpText "Missing number.".toList = false ∧
      ¬ IsTracked root log 4 ∧ ¬ IsTracked root log 5 := by
  intro root log above h
  obtain ⟨c, hseg⟩ : ∃ c, .message 1 c ∈ logSegments root log :=
    ⟨_, List.mem_cons_self⟩
  have habove : (logLines log)[1]? = some above := by decide +kernel
  have hh : Heading.ofLine? above = some h := by decide +kernel
  have hmessage : h.errorMessage? = some "Missing number.".toList := rfl
  have hn : (errorTail h.indentedOnly ((logLines log).drop 2)).line = some 3 := by decide +kernel
  have hhelp : isHelpText "Missing number.".toList = false := by decide +kernel
  have htaken : (errorTail h.indentedOnly ((logLines log).drop 2)).taken = 4 := by decide +kernel
  obtain ⟨k, hk, htracked, -⟩ := snippet_tracked_iff hseg habove hh hmessage hn
  have hcontext : 2 = k := hk.only 2 (by rw [htaken]; decide) (by decide +kernel)
  subst hcontext
  refine ⟨⟨c, hseg, habove, hh, hmessage, hn⟩, hhelp, ?_, ?_⟩
  · exact htracked hhelp 4 (by decide) (by rw [htaken]; decide)
  · exact htracked hhelp 5 (by decide) (by rw [htaken]; decide)

/-- The context line below a help text is tracked. The file that it seems to open is the one that
the next error is found to be about. -/
theorem snippet_below_help_text :
    let root := Path.ofString "/doc/main.tex"
    let help := "You can't use `macro parameter character #' in horizontal mode.".toList
    let log := ("Banner\n! ".toList ++ help ++
      "\nl.3 (part.tex #\n\n! Undefined control sequence.\nl.7 \\foo\n".toList)
    (∃ c, .message 1 c ∈ logSegments root log) ∧
      (logLines log)[1]?.bind Heading.ofLine? = some (.fatal none help) ∧
      (errorTail false ((logLines log).drop 2)).line = some 3 ∧
      (logLines log)[2]? = some "l.3 (part.tex #".toList ∧ IsTracked root log 2 ∧
      (read root log).diagnostics.map (·.location.path) = [Path.ofString "/doc/part.tex #"] := by
  intro root help log
  refine ⟨⟨{}, by decide +kernel⟩, by decide +kernel, by decide +kernel, by decide +kernel,
    ⟨"l.3 (part.tex #".toList, by decide +kernel⟩, by decide +kernel⟩

end Typeset.Log
