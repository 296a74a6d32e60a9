import Typeset.Proofs.Log.Form

/-!
# Wrapped notices

A message of words with single spaces between them may be laid out over several lines. A line goes
on behind a far indentation, behind the name of the package in brackets, or with the digits of a
line number that the line above breaks off. However breaks of these kinds are mixed, the notice is
read as if it stood on one line.

## Main definitions

* `Log.Break`: the places at which a message may be broken, and the line behind each
* `Log.Layout`: a message laid out over lines

## Main results

* `Log.Break.extendNotice?`: the line behind a break continues the text in front of it
* `Log.Layout.noticeTail`: the lines of a layout give the message back
* `Log.claim_layout`: a wrapped notice says what it says on one line
-/

namespace Typeset.Log

open Text

/-! ## Breaks -/

/-- The text ends with the whole word `line`. -/
def EndsWithLine (text : Text) : Prop :=
  ∃ before, text = before ++ "line".toList ∧ ∀ c ∈ before.getLast?, isWord c = false

/-- The text begins with a digit. -/
def StartsDigit (text : Text) : Prop := ∃ c ∈ text.head?, isDigit c

/-- A break in the message of a notice called `name`: the text in front of it, the line behind it,
and the text with the part of the message on that line. -/
inductive Break (name : Option Text) : (text line longer : Text) → Prop where
  /-- At a space, in front of at least fifteen blanks. -/
  | indented {text pad part : Text} (hpad : ∀ c ∈ pad, isBlank c) (hlong : 15 ≤ pad.length) :
      Break name text (pad ++ part) (text ++ ' ' :: part)
  /-- At a space, in front of the name in brackets and blanks. -/
  | marked {text n pad part : Text} (hname : name = some n) (hpad : ∀ c ∈ pad, isBlank c)
      (hne : pad ≠ []) : Break name text ('(' :: n ++ ')' :: pad ++ part) (text ++ ' ' :: part)
  /-- At the space between the word `line` and a number. -/
  | beforeNumber {text part : Text} (hline : EndsWithLine text) (hdigit : StartsDigit part) :
      Break name text part (text ++ ' ' :: part)
  /-- Between two digits of a number behind the word `line` and a space. -/
  | inNumber {before digits part : Text} (hline : EndsWithLine before)
      (hdigits : ∀ c ∈ digits, isDigit c) (hne : digits ≠ []) (hdigit : StartsDigit part) :
      Break name (before ++ ' ' :: digits) part (before ++ ' ' :: digits ++ part)

/-- The lines complete the text to the message. -/
inductive Layout (name : Option Text) (message : Text) : (text : Text) → List Text → Prop where
  | done : Layout name message message []
  | next {text line longer : Text} {lines : List Text} (hbreak : Break name text line longer)
      (hlines : Layout name message longer lines) : Layout name message text (line :: lines)

/-! ## Numbers behind the word `line` -/

theorem EndsWithLine.endsWithLine {text : Text} (h : EndsWithLine text) : endsWithLine text := by
  obtain ⟨before, rfl, hbefore⟩ := h
  have hafter : after? "enil".toList (before ++ "line".toList).reverse = some before.reverse := by
    rw [List.reverse_append]
    exact after?_append _ _
  have hword : startsWord before.reverse = false := by
    rw [← List.head?_reverse] at hbefore
    cases hrev : before.reverse with
    | nil => rfl
    | cons c t => exact hbefore c (by rw [hrev]; rfl)
  rw [Log.endsWithLine, hafter]
  simp [hword]

theorem not_endsWithLine_of_getLast? {text : Text} (h : ∀ c ∈ text.getLast?, c ≠ 'e') :
    endsWithLine text = false := by
  rw [← List.head?_reverse] at h
  unfold Log.endsWithLine
  split
  · next before hbefore =>
    rw [after?_eq_some_iff.mp hbefore] at h
    exact absurd rfl (h 'e' rfl)
  · rfl

/-- A digit stands last, so the text does not end with the word itself. -/
theorem lineEnding?_number {before digits : Text} (hline : EndsWithLine before)
    (hdigits : ∀ c ∈ digits, isDigit c) (hne : digits ≠ []) :
    lineEnding? (before ++ ' ' :: digits) = some .number := by
  have hspace : ∀ c ∈ (before ++ [' ']).getLast?, isDigit c = false := by
    simp only [List.getLast?_append, List.getLast?_singleton, Option.some_or]
    rintro _ ⟨⟩
    decide
  have hsplit : before ++ ' ' :: digits = before ++ [' '] ++ digits := by simp
  have hlast : ∀ c ∈ (before ++ [' '] ++ digits).getLast?, c ≠ 'e' := by
    rintro _ hc rfl
    rw [List.getLast?_append_of_ne_nil _ hne] at hc
    exact absurd (hdigits _ (List.mem_of_mem_getLast? hc)) (by decide)
  have hempty : digits.isEmpty = false := by simpa using hne
  have hfront : after? [' '] (before ++ [' ']).reverse = some before.reverse := by
    rw [List.reverse_append]
    exact after?_append _ _
  rw [hsplit, lineEnding?, not_endsWithLine_of_getLast? hlast,
    takeEnd_append_of_getLast? hspace hdigits, dropEnd_append_of_getLast? hspace hdigits, hfront,
    hempty]
  simp [hline.endsWithLine]

theorem StartsDigit.leadingDigits? {part : Text} (h : StartsDigit part) (hfeed : '\n' ∉ part) :
    leadingDigits? part = some (part.takeWhile isDigit, part.dropWhile isDigit) := by
  have hrest : '\n' ∉ part.dropWhile isDigit := fun hmem =>
    hfeed ((List.dropWhile_suffix _).subset hmem)
  have hne : (part.takeWhile isDigit).isEmpty = false := by
    obtain ⟨c, hc, hdigit⟩ := h
    obtain ⟨rest, rfl⟩ : ∃ rest, part = c :: rest := List.head?_eq_some_iff.mp hc
    simp [hdigit]
  simp only [Log.leadingDigits?, Heading.dropFeed_of_not_mem hrest, hrest, hne, decide_false,
    Bool.or_self, Bool.false_eq_true, if_false]

/-- What follows the digits is joined to them as it stands. A blank there is one space. -/
theorem joined_rest {part : Text} (h : Spaced part) (hdigit : StartsDigit part) (front : Text) :
    (if startsBlank (part.dropWhile isDigit) then
        some (front ++ ' ' :: trim (part.dropWhile isDigit))
      else some (front ++ trimRight (part.dropWhile isDigit))) =
      some (front ++ part.dropWhile isDigit) := by
  obtain ⟨c, hc, hdigit⟩ := hdigit
  obtain ⟨t, rfl⟩ : ∃ t, part = c :: t := List.head?_eq_some_iff.mp hc
  have hpart := List.takeWhile_append_dropWhile (p := isDigit) (l := c :: t)
  generalize (c :: t).dropWhile isDigit = rest at hpart ⊢
  rw [← hpart] at h
  cases hstart : startsBlank rest with
  | false => simp [(h.right hstart).trimRight]
  | true =>
    cases rest with
    | nil => cases hstart
    | cons b r =>
      obtain ⟨rfl, -⟩ := h _ b r rfl hstart
      have hspace : ∀ c ∈ [' '], isBlank c := List.forall_mem_singleton.mpr (by decide)
      have hr : trim (' ' :: r) = r := h.of_append_space.2.2.1.trim_append hspace
      simp [hr]

/-- What stands between a text and the number that continues it. -/
def LineEnding.glue : LineEnding → Text
  | .word => [' ']
  | .number => []

theorem joinWrappedNumber?_of_spaced {text part : Text} {ending : LineEnding}
    (htext : Spaced text) (hending : lineEnding? text = some ending) (hpart : Spaced part)
    (hdigit : StartsDigit part) :
    joinWrappedNumber? text part = some (text ++ ending.glue ++ part) := by
  have hjoined (front : Text) := joined_rest hpart hdigit (front ++ part.takeWhile isDigit)
  simp only [List.append_assoc, List.takeWhile_append_dropWhile] at hjoined
  simp only [joinWrappedNumber?, htext.trimRight, hending,
    hdigit.leadingDigits? hpart.not_mem_lineFeed, Option.bind_eq_bind, Option.bind_some]
  cases ending with
  | word => simpa [LineEnding.glue] using hjoined (text ++ [' '])
  | number => simpa [LineEnding.glue] using hjoined text

/-! ## Lines behind a break -/

/-- A digit is neither a blank nor a bracket, so none of the other rules applies. -/
theorem extendNotice?_digit {name : Option Text} {text part : Text} (hdigit : StartsDigit part) :
    extendNotice? name text part = joinWrappedNumber? text part := by
  obtain ⟨c, hc, hdigit⟩ := hdigit
  obtain ⟨t, rfl⟩ : ∃ t, part = c :: t := List.head?_eq_some_iff.mp hc
  have hblank : isBlank c = false := isBlank_of_isDigit hdigit
  have hbracket : '(' ≠ c := by
    rintro rfl
    exact absurd hdigit (by decide)
  have hpackage : name.bind (afterPackage? · (c :: t)) = none := by
    cases name <;> simp [afterPackage?, after?, hbracket]
  simp [extendNotice?, isBlankLine, indentation, continuationIndent, hblank, hpackage]

theorem isBlankLine_append_eq_false {front part : Text} (hne : part ≠ [])
    (h : startsBlank part = false) : isBlankLine (front ++ part) = false := by
  cases part with
  | nil => exact absurd rfl hne
  | cons c t =>
    have hc : isBlank c = false := h
    simp [isBlankLine, hc]

/-- The text in front of a break is spaced if the text with the next part is. -/
theorem Break.spaced {name : Option Text} {text line longer : Text}
    (h : Break name text line longer) (hlonger : Spaced longer) : Spaced text := by
  cases h with
  | indented => exact hlonger.of_append_space.1
  | marked => exact hlonger.of_append_space.1
  | beforeNumber => exact hlonger.of_append_space.1
  | @inNumber before digits _ _ hdigits hne _ =>
    refine hlonger.left fun c hc => isBlank_of_isDigit (hdigits c ?_)
    rw [← List.singleton_append, ← List.append_assoc, List.getLast?_append_of_ne_nil _ hne] at hc
    exact List.mem_of_mem_getLast? hc

/-- The line behind a break continues the text in front of it. The break calls for one rule: blanks
in front of the part are its whole indentation, a bracket begins its line, and a digit goes on with
a number. -/
theorem Break.extendNotice? {name : Option Text} {text line longer : Text}
    (h : Break name text line longer) (hname : ∀ n ∈ name, IsToken n) (hlonger : Spaced longer) :
    extendNotice? name text line = some longer := by
  have htext : Spaced text := h.spaced hlonger
  cases h with
  | @indented _ pad part hpad hlong =>
    obtain ⟨-, -, hpart, hne⟩ := hlonger.of_append_space
    have hindent : continuationIndent ≤ indentation (pad ++ part) := by
      rw [indentation, takeWhile_append_of_head? hpad
        (startsBlank_eq_false_iff.mp hpart.startsBlank)]
      exact hlong
    rw [Log.extendNotice?, isBlankLine_append_eq_false hne hpart.startsBlank, if_neg (by decide),
      if_pos hindent, hpart.trim_append hpad]
  | @marked _ n pad part hn hpad hpadne =>
    obtain ⟨-, -, hpart, hne⟩ := hlonger.of_append_space
    have hstart : startsBlank (pad ++ part) := by
      obtain ⟨b, rest, rfl⟩ := List.exists_cons_of_ne_nil hpadne
      exact hpad b List.mem_cons_self
    have hafter : after? ('(' :: n ++ [')']) ('(' :: n ++ ')' :: pad ++ part) =
        some (pad ++ part) := after?_eq_some_iff.mpr (by simp)
    have hnonempty : n.isEmpty = false := by simpa using (hname n hn).1
    have hpackage : name.bind (afterPackage? · ('(' :: n ++ ')' :: pad ++ part)) =
        some (pad ++ part) := by
      simp only [hn, Option.bind_some, afterPackage?, hafter, Option.bind_eq_bind, hstart,
        hnonempty]
      rfl
    have hindent : ¬ continuationIndent ≤ indentation ('(' :: n ++ ')' :: pad ++ part) := by
      simp [indentation, continuationIndent, show isBlank '(' = false by decide]
    rw [Log.extendNotice?, isBlankLine_append_eq_false hne hpart.startsBlank, if_neg (by decide),
      if_neg hindent, hpackage]
    simp only [hpart.trim_append hpad]
  | beforeNumber hline hdigit =>
    have hending : lineEnding? text = some .word := by simp [lineEnding?, hline.endsWithLine]
    rw [extendNotice?_digit hdigit,
      joinWrappedNumber?_of_spaced htext hending hlonger.of_append_space.2.2.1 hdigit]
    simp [LineEnding.glue]
  | @inNumber before digits part hline hdigits hne hdigit =>
    have hpart : Spaced line := by
      obtain ⟨c, hc, hd⟩ := hdigit
      obtain ⟨t, rfl⟩ : ∃ t, line = c :: t := List.head?_eq_some_iff.mp hc
      exact hlonger.right (isBlank_of_isDigit hd)
    rw [extendNotice?_digit hdigit,
      joinWrappedNumber?_of_spaced htext (lineEnding?_number hline hdigits hne) hpart hdigit]
    simp [LineEnding.glue]

/-! ## Layouts -/

theorem Layout.spaced {name : Option Text} {message text : Text} {lines : List Text}
    (h : Layout name message text lines) (hm : Spaced message) : Spaced text := by
  induction h with
  | done => exact hm
  | next hbreak _ ih => exact hbreak.spaced ih

/-- The message begins with the text on the first line. -/
theorem Layout.exists_append {name : Option Text} {message text : Text} {lines : List Text}
    (h : Layout name message text lines) : ∃ later, message = text ++ later := by
  induction h with
  | done => exact ⟨[], by simp⟩
  | next hbreak _ ih =>
    obtain ⟨later, hlater⟩ := ih
    cases hbreak <;> exact ⟨_, by rw [hlater, List.append_assoc]⟩

/-- The lines of a layout give the message back, and what follows them continues it. Each line
completes the text to the one that the next line continues. -/
theorem Layout.noticeTail {name : Option Text} {message text : Text} {lines : List Text}
    (h : Layout name message text lines) (hname : ∀ n ∈ name, IsToken n) (hm : Spaced message)
    (after : List Text) :
    Log.noticeTail name text (lines ++ after) =
      ((Log.noticeTail name message after).1,
        lines.length + (Log.noticeTail name message after).2) := by
  induction h with
  | done => simp
  | next hbreak hlines ih =>
    rw [List.cons_append, Log.noticeTail, hbreak.extendNotice? hname (hlines.spaced hm)]
    simp only [ih, List.length_cons, Prod.mk.injEq, true_and]
    omega

/-- **A notice says the same however it is wrapped.** The line of a notice is a head with the
message on it, which has single spaces between its words. With the first line of a layout behind the
head, it has the same source, name and volume. With the other lines of the layout behind it, the
notice has the same severity, excerpt and location, and takes as many of the lines after it,
whatever they are. -/
theorem claim_layout {line : Text} (hfeed : '\n' ∉ line) {source : Source} {name : Option Text}
    {volume : Volume} {message : Text}
    (hline : Heading.notice? line = some (.notice source name volume message))
    (hphrase : IsPhrase message) :
    ∃ head, line = head ++ message ∧ ∀ first more, Layout name message first more →
      Heading.notice? (head ++ first) = some (.notice source name volume first) ∧
        ∀ (x : Context) (row row' : Nat) (after : List Text),
          let wrapped := claim x row (head ++ first) (more ++ after)
            (.notice source name volume first)
          let whole := claim x row' line after (.notice source name volume message)
          ∃ d d', wrapped.diagnostic = some d ∧ whole.diagnostic = some d' ∧
            d.severity = d'.severity ∧ d.excerpt = d'.excerpt ∧ d.location = d'.location ∧
            wrapped.taken = more.length + whole.taken := by
  have hm : Spaced message := hphrase.spaced
  obtain ⟨hname, -⟩ := (Heading.notice?_eq_some_iff hfeed).mp hline
  obtain ⟨head, hhead, hfirst⟩ := Heading.exists_head_of_notice? hfeed hline
  refine ⟨head, hhead, fun first more hlayout => ⟨?_, ?_⟩⟩
  · obtain ⟨later, hlater⟩ := hlayout.exists_append
    exact hfirst first later hlater (hlayout.spaced hm).startsBlank
  · intro x row row' after wrapped whole
    have htail := hlayout.noticeTail hname hm after
    refine ⟨_, _, rfl, rfl, ?_⟩
    simp only [wrapped, whole, claim, htail, and_self]

/-- A notice that is wrapped at each of the four kinds of break. -/
theorem claim_layout_package :
    let line := "Package hyperref Warning: Token not allowed on input line 1234.".toList
    let name := some "hyperref".toList
    let message := "Token not allowed on input line 1234.".toList
    let first := "Token not".toList
    let more := ["               allowed on".toList, "(hyperref)   input line".toList,
      "12".toList, "34.".toList]
    ('\n' ∉ line ∧ Heading.notice? line = some (.notice .package name .warning message) ∧
        IsPhrase message ∧ Layout name message first more) ∧
      ∃ head, line = head ++ message ∧
        Heading.notice? (head ++ first) = some (.notice .package name .warning first) ∧
        ∀ (x : Context) (row row' : Nat) (after : List Text),
          let wrapped := claim x row (head ++ first) (more ++ after)
            (.notice .package name .warning first)
          let whole := claim x row' line after (.notice .package name .warning message)
          ∃ d d', wrapped.diagnostic = some d ∧ whole.diagnostic = some d' ∧
            d.severity = d'.severity ∧ d.excerpt = d'.excerpt ∧ d.location = d'.location ∧
            wrapped.taken = more.length + whole.taken := by
  intro line name message first more
  have hfeed : '\n' ∉ line := by decide
  have hline : Heading.notice? line = some (.notice .package name .warning message) := by
    decide +kernel
  have hphrase : IsPhrase message := by decide +kernel
  have hword : EndsWithLine "Token not allowed on input line".toList := by
    refine ⟨"Token not allowed on input ".toList, rfl, ?_⟩
    rintro _ ⟨⟩
    decide
  have hlayout : Layout name message first more :=
    .next (@Break.indented name first "               ".toList "allowed on".toList
      (List.all_eq_true.mp (by decide)) (by decide)) <|
    .next (@Break.marked name _ "hyperref".toList "   ".toList "input line".toList rfl
      (List.all_eq_true.mp (by decide)) (by decide)) <|
    .next (.beforeNumber hword ⟨'1', rfl, by decide⟩) <|
    .next (.inNumber hword (List.all_eq_true.mp (by decide)) (by decide) ⟨'3', rfl, by decide⟩)
    .done
  obtain ⟨head, hhead, h⟩ := claim_layout hfeed hline hphrase
  exact ⟨⟨hfeed, hline, hphrase, hlayout⟩, head, hhead, h first more hlayout⟩

end Typeset.Log
