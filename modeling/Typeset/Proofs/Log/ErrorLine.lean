import Typeset.Proofs.Log.Partition

/-!
# Error lines

A line that has the form of an error is the beginning of an error, unless the message above it
takes it. A fatal error is never taken. An error that names its file and line is taken only where
a message goes on by a rule of its own: the source lines that an error shows, and the lines that
continue a notice by their indentation, by the package in brackets or by the rest of a number.

## Main definitions

* `Log.isErrorLine`: the form of an error that is no help
* `Log.ErrorFound`: an error is found that begins at a row
* `Log.GoesOn`: the lines with which a message goes on although they have a form of their own

## Main results

* `Log.errorTailFrom_goesOn`, `Log.noticeTail_goesOn`: the lines that a message takes
* `Log.errorFound_of_isErrorLine`: no error is lost but to the message above it
* `Log.errors_lost_to_messages_above`: each rule by which a message goes on can take an error
-/

namespace Typeset.Log

open Text

/-! ## Lines that are errors -/

/-- The message of an error. -/
def Heading.errorMessage? : Heading → Option Text
  | .fatal _ message => some message
  | .fileLine _ _ _ message => some message
  | _ => none

/-- The error that the line has the form of: a fatal error, or one that names its file and line, if
the line does not announce the output file. -/
def errorHeading? (line : Text) : Option Heading :=
  match Heading.fatal? line with
  | some h => some h
  | none => if (Heading.output? line).isSome then none else Heading.fileLine? line

/-- Whether the line has the form of an error whose message is no help text. -/
def isErrorLine (line : Text) : Bool :=
  ((errorHeading? line).bind Heading.errorMessage?).any fun message => !isHelpText message

theorem eq_of_fatal? {line : Text} {h : Heading} (hf : Heading.fatal? line = some h) :
    (∃ rest, line = '!' :: ' ' :: rest) ∧ ∃ origin message, h = .fatal origin message := by
  simp only [Heading.fatal?, Option.bind_eq_bind, Option.bind_eq_some_iff] at hf
  obtain ⟨rest, hrest, ⟨origin, message⟩, -, hh⟩ := hf
  refine ⟨⟨rest, after?_eq_some_iff.mp hrest⟩, origin, message, ?_⟩
  simpa using hh.symm

theorem ofLine?_of_fatal {line : Text} {h : Heading} (hf : Heading.fatal? line = some h) :
    Heading.ofLine? line = some h := by
  obtain ⟨⟨rest, rfl⟩, -⟩ := eq_of_fatal? hf
  have ho : Heading.output? ('!' :: ' ' :: rest) = none := rfl
  simp only [Heading.ofLine?, Heading.kinds, List.findSome?_cons, ho, hf]

/-- The heading of an error line is an error that is no help, and a fatal one if the line is
fatal. -/
theorem heading_of_isErrorLine {line : Text} (h : isErrorLine line) :
    ∃ head message, Heading.ofLine? line = some head ∧ head.errorMessage? = some message ∧
      isHelpText message = false := by
  simp only [isErrorLine, Option.any_eq_true, Option.bind_eq_some_iff, Bool.not_eq_true'] at h
  obtain ⟨message, ⟨head, hhead, hmessage⟩, hhelp⟩ := h
  refine ⟨head, message, ?_, hmessage, hhelp⟩
  unfold errorHeading? at hhead
  split at hhead
  · next hf => exact hhead ▸ ofLine?_of_fatal hf
  · next hf =>
    split at hhead
    · cases hhead
    · next ho =>
      have ho : Heading.output? line = none := by simpa using ho
      simp only [Heading.ofLine?, Heading.kinds, List.findSome?_cons, ho, hf, hhead]

theorem claim_of_errorMessage (x : Context) (row : Nat) (line : Text) (rest : List Text)
    {h : Heading} {message : Text} (hm : h.errorMessage? = some message)
    (hh : isHelpText message = false) :
    ∃ d ∈ (claim x row line rest h).diagnostic, d.severity = .error := by
  cases h with
  | fatal origin message =>
    cases hm
    rw [claim_fatal _ _ _ _ _ hh]
    exact ⟨_, rfl, rfl⟩
  | fileLine path n origin message =>
    cases hm
    rw [claim_fileLine _ _ _ _ _ _ _ hh]
    exact ⟨_, rfl, rfl⟩
  | _ => cases hm

/-! ## Lines that a message takes -/

/-- Whether a source line of an error goes on at `line`: at a context line, and at an indented line
right behind a snippet marker or a context line among the lines `between` the heading and it. -/
def SnippetGoesOn (between : List Text) (line : Text) : Prop :=
  (contextLine? line).isSome ∨
    startsBlank line ∧ ∃ prev ∈ between.getLast?, isSnippetMarker prev ∨ (contextLine? prev).isSome

/-- Whether the message of a heading goes on at `line`, even if that has a form of its own, where
the lines `between` the heading and it belong to the message. -/
def GoesOn (between : List Text) (line : Text) : Heading → Prop
  | .fatal _ _ => SnippetGoesOn between line
  | .fileLine _ _ _ _ => SnippetGoesOn between line
  | .notice _ name _ message => (extendNotice? name (noticeTail name message between).1 line).isSome
  | _ => False

theorem SnippetGoesOn.cons {between : List Text} {line : Text} (above : Text)
    (h : SnippetGoesOn between line) : SnippetGoesOn (above :: between) line := by
  rcases h with hc | ⟨hb, prev, hp, hprev⟩
  · exact .inl hc
  · refine .inr ⟨hb, prev, ?_, hprev⟩
    rw [List.getLast?_cons, Option.mem_def.mp hp]
    rfl

/-- What the tail of an error does at a line: it passes an indented line behind a snippet marker,
stops, ends with a context line, passes a snippet marker, or takes the line as text. The cases stand
in the order in which the tail tests for them. -/
theorem errorTailFrom_cons_cases (indentedOnly inSnippet : Bool) (line : Text)
    (rest : List Text) :
    (inSnippet ∧ startsBlank line ∧
        errorTailFrom indentedOnly inSnippet (line :: rest) =
          (errorTailFrom indentedOnly false rest).skip) ∨
      (¬ (inSnippet ∧ startsBlank line) ∧
        (isBlankLine line ∨ contextLine? line = none ∧
          (isHeading line ∨ indentedOnly ∧ ¬ startsBlank line ∧ ¬ isSnippetMarker line)) ∧
        errorTailFrom indentedOnly inSnippet (line :: rest) = {}) ∨
      (∃ n, contextLine? line = some n ∧
        errorTailFrom indentedOnly inSnippet (line :: rest) = .context n line rest) ∨
      (contextLine? line = none ∧ ¬ isHeading line ∧ isSnippetMarker line ∧
        errorTailFrom indentedOnly inSnippet (line :: rest) =
          (errorTailFrom indentedOnly true rest).skip) ∨
      (contextLine? line = none ∧ ¬ isHeading line ∧ ¬ isSnippetMarker line ∧
        errorTailFrom indentedOnly inSnippet (line :: rest) =
          (errorTailFrom indentedOnly false rest).cons (trim line)) := by
  rw [errorTailFrom]
  by_cases hs : inSnippet ∧ startsBlank line
  · exact .inl ⟨hs.1, hs.2, by simp [hs.1, hs.2]⟩
  rw [if_neg (by simpa using hs)]
  by_cases hb : isBlankLine line
  · exact .inr (.inl ⟨hs, .inl hb, by rw [if_pos hb]⟩)
  rw [if_neg hb]
  cases hc : contextLine? line with
  | some n => exact .inr (.inr (.inl ⟨n, rfl, rfl⟩))
  | none =>
    by_cases hh : isHeading line
    · exact .inr (.inl ⟨hs, .inr ⟨rfl, .inl hh⟩, by simp [hh]⟩)
    by_cases hm : isSnippetMarker line
    · exact .inr (.inr (.inr (.inl ⟨rfl, hh, hm, by simp [hh, hm]⟩)))
    by_cases hi : indentedOnly ∧ ¬ startsBlank line
    · exact .inr (.inl ⟨hs, .inr ⟨rfl, .inr ⟨hi.1, hi.2, hm⟩⟩, by simp [hh, hm, hi.1, hi.2]⟩)
    · exact .inr (.inr (.inr (.inr ⟨rfl, hh, hm, by
        rw [if_neg hh, if_neg hm, if_neg (by simpa using hi)]⟩)))

theorem taken_context_cons (n : Nat) (line next : Text) (rest : List Text) :
    (ErrorTail.context n line (next :: rest)).taken = if startsBlank next then 2 else 1 := by
  by_cases h : startsBlank next <;> simp [ErrorTail.context, h]

/-- An error takes a heading only as a source line. The first line counts as one if the line above
it is a snippet marker. Behind a context line one more line is taken at most, and only if it is
indented. -/
theorem errorTailFrom_goesOn {indentedOnly inSnippet : Bool} {lines : List Text} {k : Nat}
    {line : Text} (hk : k < (errorTailFrom indentedOnly inSnippet lines).taken)
    (hl : lines[k]? = some line) (hh : isHeading line) :
    SnippetGoesOn (lines.take k) line ∨ (k = 0 ∧ inSnippet ∧ startsBlank line) := by
  induction lines generalizing inSnippet k with
  | nil => simp at hl
  | cons above rest ih =>
    cases k with
    | zero =>
      obtain rfl : above = line := by simpa using hl
      rcases errorTailFrom_cons_cases indentedOnly inSnippet above rest with
        ⟨hi, hb, -⟩ | ⟨-, -, ht⟩ | ⟨n, hc, -⟩ | ⟨-, hn, -⟩ | ⟨-, hn, -⟩
      · exact .inr ⟨rfl, hi, hb⟩
      · rw [ht] at hk
        exact absurd hk (Nat.lt_irrefl 0)
      · exact .inl (.inl (by rw [hc]; rfl))
      · exact absurd hh hn
      · exact absurd hh hn
    | succ k =>
      rw [List.getElem?_cons_succ] at hl
      rw [List.take_succ_cons]
      left
      have later {below : Bool} (hm : below → isSnippetMarker above)
          (hk : k < (errorTailFrom indentedOnly below rest).taken) :
          SnippetGoesOn (above :: rest.take k) line := by
        rcases ih hk hl with hs | ⟨rfl, hi, hb⟩
        · exact hs.cons above
        · exact .inr ⟨hb, above, rfl, .inl (hm hi)⟩
      rcases errorTailFrom_cons_cases indentedOnly inSnippet above rest with
        ⟨-, -, ht⟩ | ⟨-, -, ht⟩ | ⟨n, hc, ht⟩ | ⟨-, -, hm, ht⟩ | ⟨-, -, -, ht⟩ <;> rw [ht] at hk
      · exact later (by simp) (Nat.lt_of_succ_lt_succ hk)
      · exact absurd hk (Nat.not_lt_zero _)
      · obtain ⟨next, rest, rfl⟩ : ∃ next more, rest = next :: more :=
          List.exists_cons_of_ne_nil fun h => by simp [h] at hl
        rw [taken_context_cons] at hk
        split at hk
        · next hb =>
          obtain rfl : k = 0 := by omega
          obtain rfl : next = line := by simpa using hl
          exact .inr ⟨hb, above, rfl, .inr (by rw [hc]; rfl)⟩
        · omega
      · exact later (fun _ => hm) (Nat.lt_of_succ_lt_succ hk)
      · exact later (by simp) (Nat.lt_of_succ_lt_succ hk)

/-- The lines that a notice takes go on with its text as it has grown up to them. -/
theorem noticeTail_goesOn {package : Option Text} {text : Text} {lines : List Text} {k : Nat}
    {line : Text} (hk : k < (noticeTail package text lines).2) (hl : lines[k]? = some line) :
    (extendNotice? package (noticeTail package text (lines.take k)).1 line).isSome := by
  induction lines generalizing text k with
  | nil => simp at hl
  | cons above rest ih =>
    unfold noticeTail at hk
    split at hk
    · next longer hext =>
      cases k with
      | zero =>
        obtain rfl : above = line := by simpa using hl
        simp [noticeTail, hext]
      | succ k =>
        rw [List.take_succ_cons, noticeTail, hext]
        exact ih (Nat.lt_of_succ_lt_succ hk) (by simpa using hl)
    · exact absurd hk (Nat.not_lt_zero _)

/-- The lines that a message takes and that have a form of their own. -/
theorem goesOn_of_lt_taken {x : Context} {row : Nat} {above : Text} {rest : List Text}
    {h : Heading} {k : Nat} {line : Text} (hk : k < (claim x row above rest h).taken)
    (hl : rest[k]? = some line) (hh : isHeading line) : GoesOn (rest.take k) line h := by
  have snippet {indentedOnly : Bool} (hk : k < (errorTail indentedOnly rest).taken) :
      SnippetGoesOn (rest.take k) line := by
    rcases errorTailFrom_goesOn hk hl hh with hs | ⟨-, hi, -⟩
    · exact hs
    · cases hi
  cases h with
  | output path => exact absurd hk (Nat.not_lt_zero _)
  | fatal origin message =>
    cases hm : isHelpText message with
    | true => simp [claim, hm] at hk
    | false =>
      rw [claim_fatal _ _ _ _ _ hm] at hk
      exact snippet hk
  | fileLine path n origin message =>
    cases hm : isHelpText message with
    | true => simp [claim, hm] at hk
    | false =>
      rw [claim_fileLine _ _ _ _ _ _ _ hm] at hk
      exact snippet hk
  | box head first last => exact absurd hk (Nat.not_lt_zero _)
  | notice source name volume message => exact noticeTail_goesOn hk hl

theorem joinWrappedNumber?_eq_none {text line : Text} (h : leadingDigits? line = none) :
    joinWrappedNumber? text line = none := by
  simp [joinWrappedNumber?, h]

/-- No rule fits an exclamation mark: it is no indentation, no bracket and no digit. -/
theorem extendNotice?_bang (package : Option Text) (text rest : Text) :
    extendNotice? package text ('!' :: rest) = none := by
  have hblank : isBlank '!' = false := by decide
  have hdigit : isDigit '!' = false := by decide
  have hpackage : package.bind (afterPackage? · ('!' :: rest)) = none := by
    cases package <;> rfl
  have hnumber : leadingDigits? ('!' :: rest) = none := by simp [leadingDigits?, hdigit]
  simp [extendNotice?, isBlankLine, indentation, continuationIndent, hblank, hpackage,
    joinWrappedNumber?_eq_none hnumber]

/-- No message goes on at a fatal error. -/
theorem not_goesOn_bang (between : List Text) (rest : Text) (h : Heading) :
    ¬ GoesOn between ('!' :: rest) h := by
  have hsnippet : ¬ SnippetGoesOn between ('!' :: rest) := by
    rintro (hc | ⟨hb, -⟩)
    · cases hc
    · cases hb
  cases h with
  | fatal => exact hsnippet
  | fileLine => exact hsnippet
  | notice source name volume message => simp [GoesOn, extendNotice?_bang]
  | _ => exact id

/-! ## Errors that are found -/

/-- What is dropped repeats the last one that was kept before it. -/
theorem mem_dropRepeats_or {α κ : Type} [DecidableEq κ] (key : α → κ) (before after : List α)
    (a : α) : a ∈ dropRepeats key none (before ++ a :: after) ∨
      ∃ b ∈ (dropRepeats key none before).getLast?, key b = key a := by
  rw [dropRepeats_append, Option.or_none]
  by_cases h : (dropRepeats key none before).getLast?.map key = some (key a)
  · obtain ⟨b, hb, hkey⟩ := Option.map_eq_some_iff.mp h
    exact .inr ⟨b, hb, hkey⟩
  · left
    rw [dropRepeats, if_neg h]
    exact List.mem_append_right _ List.mem_cons_self

/-- An error is found that begins at row `i`; it is in the report unless it repeats the diagnostic
that was kept last before it. -/
def ErrorFound (root : Path) (log : Text) (i : Nat) : Prop :=
  ∃ before d after, found (logSegments root log) = before ++ d :: after ∧ d.severity = .error ∧
    (∃ r ∈ d.logRange, r.start = ⟨i, 0⟩) ∧
    (d ∈ (read root log).diagnostics ∨
      ∃ d' ∈ (dropRepeats repeatKey none before).getLast?, repeatKey d' = repeatKey d)

/-- **No error is lost but to the message above it.** Behind the banner, an error line begins an
error that is found, unless it names a file and a line and a message that begins further up takes
it as a line with which that message goes on. -/
theorem errorFound_of_isErrorLine (root : Path) (log : Text) {i : Nat} {line : Text}
    (hi : 1 ≤ i) (hl : (logLines log)[i]? = some line) (he : isErrorLine line) :
    ErrorFound root log i ∨
      Heading.fatal? line = none ∧ ∃ j c above h, .message j c ∈ logSegments root log ∧
        j < i ∧ i ≤ j + c.taken ∧ (logLines log)[j]? = some above ∧
        Heading.ofLine? above = some h ∧ GoesOn (((logLines log).take i).drop (j + 1)) line h := by
  have hcut := cut_logSegments root log
  obtain ⟨head, message, hhead, hmessage, hhelp⟩ := heading_of_isErrorLine he
  obtain ⟨seg, hs, hle, hlt⟩ := hcut.exists_mem_row hi (List.getElem?_eq_some_iff.mp hl).1
  obtain ⟨above, habove, hseg⟩ := hcut.segment_eq hs
  rcases Nat.eq_or_lt_of_le hle with heq | hlt'
  · -- the segment begins at the line, which is a heading
    left
    rw [heq] at habove
    obtain rfl : above = line := Option.some.inj (habove.symm.trans hl)
    rcases hseg with ⟨hnone, -⟩ | ⟨h, s', hsome, hseg⟩
    · exact absurd (hnone.symm.trans hhead) (by simp)
    · obtain rfl : h = head := Option.some.inj (hsome.symm.trans hhead)
      obtain ⟨d, hd, herr⟩ := claim_of_errorMessage ⟨root, s'⟩ seg.row above
        ((logLines log).drop (seg.row + 1)) hmessage hhelp
      have hfound : d ∈ found (logSegments root log) :=
        List.mem_filterMap.mpr ⟨seg, hs, by rw [hseg]; exact hd⟩
      obtain ⟨before, after, hsplit⟩ := List.append_of_mem hfound
      refine ⟨before, d, after, hsplit, herr, ⟨_, claim_logRange hd, by rw [heq]; rfl⟩, ?_⟩
      have hkept : (read root log).diagnostics = dropRepeats repeatKey none (before ++ d :: after) :=
        congrArg (dropRepeats repeatKey none) hsplit
      rw [hkept]
      exact mem_dropRepeats_or repeatKey before after d
  · -- the segment begins above the line, so the line is one that its message takes
    right
    rcases hseg with ⟨-, hseg⟩ | ⟨h, s', hsome, hseg⟩
    · rw [hseg, Segment.row_plain, Segment.size_plain] at hlt
      omega
    have hrest : ((logLines log).drop (seg.row + 1))[i - seg.row - 1]? = some line := by
      rw [List.getElem?_drop, ← hl]
      congr 1
      omega
    have htaken : seg.size = (claim ⟨root, s'⟩ seg.row above
        ((logLines log).drop (seg.row + 1)) h).taken + 1 := by
      rw [hseg]
      rfl
    have hk : i - seg.row - 1 < (claim ⟨root, s'⟩ seg.row above
        ((logLines log).drop (seg.row + 1)) h).taken := by omega
    have hgoes := goesOn_of_lt_taken hk hrest (by rw [isHeading_eq_isSome, hhead]; rfl)
    rw [List.take_drop, show seg.row + 1 + (i - seg.row - 1) = i by omega] at hgoes
    refine ⟨?_, seg.row, _, above, h, hseg ▸ hs, hlt', by omega, habove, hsome, hgoes⟩
    cases hf : Heading.fatal? line with
    | none => rfl
    | some f =>
      obtain ⟨⟨rest, rfl⟩, -⟩ := eq_of_fatal? hf
      exact absurd hgoes (not_goesOn_bang _ _ h)

/-- A fatal error right behind a notice that a number could continue is found. -/
theorem errorFound_behind_notice :
    let root := Path.ofString "/doc/main.tex"
    let log := "Banner\nLaTeX Warning: Citation on input line 12\n! Emergency stop.\n".toList
    (1 ≤ 2 ∧ (logLines log)[2]? = some "! Emergency stop.".toList ∧
      isErrorLine "! Emergency stop.".toList) ∧ ErrorFound root log 2 := by
  intro root log
  have hl : (logLines log)[2]? = some "! Emergency stop.".toList := by decide +kernel
  have he : isErrorLine "! Emergency stop.".toList := by decide +kernel
  refine ⟨⟨by decide, hl, he⟩, ?_⟩
  rcases errorFound_of_isErrorLine root log (by decide) hl he with h | ⟨h, -⟩
  · exact h
  · exact absurd h (by decide +kernel)

/-- An error line at row `i` begins no error that is found. -/
def ErrorLost (root : Path) (log : Text) (i : Nat) : Prop :=
  ∃ line, (logLines log)[i]? = some line ∧ isErrorLine line ∧ ¬ ErrorFound root log i

theorem errorLost_of_rows {root : Path} {log : Text} {i : Nat}
    (h : (logLines log)[i]?.any isErrorLine ∧
      ((found (logSegments root log)).filterMap Diagnostic.logRange).all
        fun r => r.start.row ≠ i) : ErrorLost root log i := by
  obtain ⟨hl, hr⟩ := h
  obtain ⟨line, hline, he⟩ : ∃ line, (logLines log)[i]? = some line ∧ isErrorLine line := by
    simpa [Option.any_eq_true] using hl
  refine ⟨line, hline, he, ?_⟩
  rintro ⟨before, d, after, hsplit, -, ⟨r, hr', hstart⟩, -⟩
  have hd : d ∈ found (logSegments root log) := by
    rw [hsplit]
    exact List.mem_append_right _ List.mem_cons_self
  have := List.all_eq_true.mp hr r (List.mem_filterMap.mpr ⟨d, hd, hr'⟩)
  simp [hstart] at this

/-- Errors are lost to each of the rules by which a message goes on: to the line behind a context
line and behind a snippet marker, to a context line, and to a notice that goes on by indentation,
by the package in brackets or by the rest of a number. -/
theorem errors_lost_to_messages_above :
    let root := Path.ofString "/doc/main.tex"
    ErrorLost root
        "Banner\n! Undefined control sequence.\nl.3 \\foo\n  part.tex:5: Bad.\n".toList 3 ∧
      ErrorLost root "Banner\n! Missing number.\n<to be read again>\n  part.tex:5: Bad.\n".toList 3 ∧
      ErrorLost root "Banner\n! Missing number.\nl.3 part.tex:5: Bad.\n".toList 2 ∧
      ErrorLost root
        "Banner\nLaTeX Warning: Odd\n               part.tex:5: Bad.\n".toList 2 ∧
      ErrorLost root "Banner\nPackage ab Warning: Odd\n(ab) part.tex:5: Bad.\n".toList 2 ∧
      ErrorLost root "Banner\nLaTeX Warning: Odd on input line 1\n2.tex:5: Bad.\n".toList 2 := by
  refine ⟨?_, ?_, ?_, ?_, ?_, ?_⟩ <;>
    exact errorLost_of_rows (by decide +kernel)

end Typeset.Log
