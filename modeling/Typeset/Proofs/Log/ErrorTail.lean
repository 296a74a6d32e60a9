import Typeset.Proofs.Log.ErrorLine

/-!
# The lines behind an error

The tail of an error is read line by line with one thing to remember: whether the line above was
taken as a snippet marker. Here it is described without that memory. A line is passed over if it is
indented and stands right below a marker that is not passed over itself; whatever else such a line
looks like does not count.

## Main definitions

* `Log.isPassedOver`: the lines that go on with the snippet marker above them
* `Log.isTextLine`, `Log.isBehindContext`: the lines that may be a part of an error's text, and
  the ones that go on with a context line
* `Log.ErrorTail.Describes`: what a tail says of the lines that it is read from

## Main results

* `Log.errorTailFrom_parts`, `Log.errorTailFrom_context`, `Log.errorTailFrom_stop`: the text, the
  context line and the end of a tail
* `Log.errorTailFrom_le`: the tail of an error that names its file goes less far
* `Log.errorTail_describes`: the tail of an error, exactly
-/

namespace Typeset.Log

open Text

variable {indentedOnly inSnippet : Bool} {lines : List Text}

/-! ## Kinds of line -/

/-- Whether line `k` is passed over, where `inSnippet` says so much of the line above the first
one: it is indented, and the line above it is a snippet marker that is not passed over. -/
def isPassedOverFrom (inSnippet : Bool) (lines : List Text) : Nat → Bool
  | 0 => inSnippet && lines[0]?.any startsBlank
  | k + 1 =>
    lines[k + 1]?.any startsBlank && lines[k]?.any isSnippetMarker &&
      !isPassedOverFrom inSnippet lines k

/-- Whether line `k` behind an error is passed over: it is indented, and the line above it is a
snippet marker that is not passed over. -/
def isPassedOver (lines : List Text) (k : Nat) : Bool := isPassedOverFrom false lines k

/-- Whether the line is a context line. -/
def isContextLine (line : Text) : Bool := (contextLine? line).isSome

/-- Whether the line is not blank, no heading, no context line and no snippet marker. -/
def isTextLine (line : Text) : Bool :=
  !isBlankLine line && !isHeading line && !isContextLine line && !isSnippetMarker line

/-- Whether line `k` is indented and stands right below a context line. -/
def isBehindContext (lines : List Text) : Nat → Bool
  | 0 => false
  | k + 1 => lines[k + 1]?.any startsBlank && lines[k]?.any isContextLine

/-- Below the first line it counts whether that line is taken as a snippet marker. -/
theorem isPassedOverFrom_cons_succ (line : Text) (k : Nat) :
    isPassedOverFrom inSnippet (line :: lines) (k + 1) =
      isPassedOverFrom (isSnippetMarker line && !(inSnippet && startsBlank line)) lines k := by
  induction k with
  | zero =>
    change (lines[0]?.any startsBlank && isSnippetMarker line && !(inSnippet && startsBlank line)) =
      (isSnippetMarker line && !(inSnippet && startsBlank line) && lines[0]?.any startsBlank)
    rw [Bool.and_assoc, Bool.and_comm]
  | succ k ih =>
    rw [isPassedOverFrom, ih, isPassedOverFrom]
    rfl

theorem isBehindContext_cons_succ {line : Text} (h : contextLine? line = none) (k : Nat) :
    isBehindContext (line :: lines) (k + 1) = isBehindContext lines k := by
  cases k with
  | zero => simp [isBehindContext, isContextLine, h]
  | succ k => rfl

/-- A context line is not indented. -/
theorem contextLine?_of_startsBlank {line : Text} (h : startsBlank line) :
    contextLine? line = none := by
  rw [contextLine?]
  cases hrest : after? "l.".toList line with
  | none => rfl
  | some rest =>
    rw [after?_eq_some_iff.mp hrest] at h
    cases h

theorem any_isContextLine_of_startsBlank {o : Option Text} (h : o.any startsBlank) :
    o.any isContextLine = false := by
  cases o with
  | none => rfl
  | some line =>
    have hc : contextLine? line = none := contextLine?_of_startsBlank h
    rw [Option.any_some, isContextLine, hc]
    rfl

/-! ## The text of an error -/

/-- Whether line `k` is a text line that is not passed over and does not go on with a context
line. -/
def isFragmentFrom (inSnippet : Bool) (lines : List Text) (k : Nat) : Bool :=
  lines[k]?.any isTextLine && !isPassedOverFrom inSnippet lines k && !isBehindContext lines k

/-- Those of the first `n` lines that are fragments, trimmed. -/
def fragmentsFrom (inSnippet : Bool) (lines : List Text) (n : Nat) : List Text :=
  ((List.range n).filter (isFragmentFrom inSnippet lines)).map fun k => trim (lines.getD k [])

/-- The first line in front of the others. -/
theorem fragmentsFrom_cons {line : Text} (hc : contextLine? line = none) (n : Nat) :
    fragmentsFrom inSnippet (line :: lines) (n + 1) =
      (if isTextLine line && !(inSnippet && startsBlank line) then [trim line] else []) ++
        fragmentsFrom (isSnippetMarker line && !(inSnippet && startsBlank line)) lines n := by
  have hfirst : isFragmentFrom inSnippet (line :: lines) 0 =
      (isTextLine line && !(inSnippet && startsBlank line)) := Bool.and_true _
  have hlater : isFragmentFrom inSnippet (line :: lines) ∘ Nat.succ =
      isFragmentFrom (isSnippetMarker line && !(inSnippet && startsBlank line)) lines := by
    funext k
    simp only [Function.comp_apply, isFragmentFrom, Nat.succ_eq_add_one,
      isPassedOverFrom_cons_succ, isBehindContext_cons_succ hc, List.getElem?_cons_succ]
  rw [fragmentsFrom, List.range_succ_eq_map, List.filter_cons, List.filter_map, hlater, hfirst]
  split <;> simp [fragmentsFrom]

theorem taken_context (n : Nat) (line : Text) (rest : List Text) :
    (ErrorTail.context n line rest).taken = if rest[0]?.any startsBlank then 2 else 1 := by
  cases rest with
  | nil => rfl
  | cons next rest => exact taken_context_cons n line next rest

/-- A context line ends the text, together with the line that goes on with it. -/
theorem fragmentsFrom_context {line : Text} {n : Nat} (hc : contextLine? line = some n)
    (rest : List Text) :
    fragmentsFrom inSnippet (line :: rest) (ErrorTail.context n line rest).taken = [] := by
  have hline : isContextLine line := by simp [isContextLine, hc]
  rw [fragmentsFrom, List.map_eq_nil_iff, List.filter_eq_nil_iff, taken_context]
  intro k hk
  rw [List.mem_range] at hk
  cases k with
  | zero => simp [isFragmentFrom, isTextLine, hline]
  | succ k =>
    split at hk
    · next hnext =>
      obtain rfl : k = 0 := by omega
      simp [isFragmentFrom, isBehindContext, hline, hnext]
    · omega

/-- The parts of the text are the fragments among the lines that are taken. -/
theorem errorTailFrom_parts (indentedOnly inSnippet : Bool) (lines : List Text) :
    (errorTailFrom indentedOnly inSnippet lines).parts =
      fragmentsFrom inSnippet lines (errorTailFrom indentedOnly inSnippet lines).taken := by
  fun_induction errorTailFrom indentedOnly inSnippet lines with
  | case1 => rfl
  | case2 inSnippet line rest hs ih =>
    have hc := contextLine?_of_startsBlank (Bool.and_eq_true_iff.mp hs).2
    simp only [ErrorTail.skip, fragmentsFrom_cons hc, hs, ih, Bool.not_true, Bool.and_false]
    rfl
  | case3 inSnippet line rest hs hb => rfl
  | case4 inSnippet line rest hs hb n hc => exact (fragmentsFrom_context hc rest).symm
  | case5 inSnippet line rest hs hb hc hh => rfl
  | case6 inSnippet line rest hs hb hc hh hm ih =>
    have ht : isTextLine line = false := by simp [isTextLine, hm]
    simp only [ErrorTail.skip, fragmentsFrom_cons hc, hs, ih, hm, ht]
    rfl
  | case7 inSnippet line rest hs hb hc hh hm hi => rfl
  | case8 inSnippet line rest hs hb hc hh hm hi ih =>
    have ht : isTextLine line := by simp [isTextLine, isContextLine, hb, hc, hh, hm]
    simp only [ErrorTail.cons, fragmentsFrom_cons hc, hs, ih, hm, ht]
    rfl

/-! ## The context line of an error -/

/-- The tail ends with line `k`, a context line with the number `n`, and the indented line below it,
if there is one: no other context line is taken, and the snippet is what these lines hold. -/
structure ErrorTail.EndsAtContext (t : ErrorTail) (lines : List Text) (k n : Nat) : Prop where
  number : lines[k]?.bind contextLine? = some n
  only : ∀ j < t.taken, lines[j]?.any isContextLine → j = k
  taken : t.taken = if lines[k + 1]?.any startsBlank then k + 2 else k + 1
  snippet : t.snippet = some (joinWith ['\n']
    ((((lines.take t.taken).drop k).filter (!isBlankLine ·)).map trimRight))

/-- What a tail adds to that of the lines below its first line has nothing to do with the context
line. -/
theorem ErrorTail.EndsAtContext.cons {t t' : ErrorTail} {k n : Nat} {line : Text}
    (h : t.EndsAtContext lines k n) (hc : contextLine? line = none)
    (htaken : t'.taken = t.taken + 1) (hsnippet : t'.snippet = t.snippet) :
    t'.EndsAtContext (line :: lines) (k + 1) n where
  number := h.number
  only := by
    intro j hj hcontext
    cases j with
    | zero => simp [isContextLine, hc] at hcontext
    | succ j => rw [h.only j (by omega) (by simpa using hcontext)]
  taken := by
    rw [htaken, h.taken, List.getElem?_cons_succ]
    split <;> rfl
  snippet := by rw [hsnippet, h.snippet, htaken, List.take_succ_cons, List.drop_succ_cons]

/-- The line below is taken only if it is indented, and then it is no context line. -/
theorem ErrorTail.endsAtContext_context {line : Text} {n : Nat} (hc : contextLine? line = some n)
    (rest : List Text) : (ErrorTail.context n line rest).EndsAtContext (line :: rest) 0 n where
  number := hc
  only := by
    intro j hj hcontext
    rw [taken_context] at hj
    cases j with
    | zero => rfl
    | succ j =>
      split at hj
      · next hnext =>
        obtain rfl : j = 0 := by omega
        rw [List.getElem?_cons_succ] at hcontext
        rw [any_isContextLine_of_startsBlank hnext] at hcontext
        cases hcontext
      · omega
  taken := taken_context n line rest
  snippet := by
    have hlines : line :: (rest.take 1).filter startsBlank =
        (line :: rest).take (ErrorTail.context n line rest).taken := by
      cases rest with
      | nil => rfl
      | cons next rest =>
        rw [taken_context_cons]
        cases hb : startsBlank next <;> simp [hb]
    rw [List.drop_zero, ← hlines]
    rfl

/-- The number of a tail is that of its context line. -/
theorem errorTailFrom_context {n : Nat}
    (h : (errorTailFrom indentedOnly inSnippet lines).line = some n) :
    ∃ k, (errorTailFrom indentedOnly inSnippet lines).EndsAtContext lines k n := by
  fun_induction errorTailFrom indentedOnly inSnippet lines with
  | case1 => cases h
  | case2 inSnippet line rest hs ih =>
    have hc := contextLine?_of_startsBlank (Bool.and_eq_true_iff.mp hs).2
    obtain ⟨k, hk⟩ := ih h
    exact ⟨k + 1, hk.cons hc rfl rfl⟩
  | case3 => cases h
  | case4 inSnippet line rest hs hb m hc =>
    cases h
    exact ⟨0, ErrorTail.endsAtContext_context hc rest⟩
  | case5 => cases h
  | case6 inSnippet line rest hs hb hc hh hm ih =>
    obtain ⟨k, hk⟩ := ih h
    exact ⟨k + 1, hk.cons hc rfl rfl⟩
  | case7 => cases h
  | case8 inSnippet line rest hs hb hc hh hm hi ih =>
    obtain ⟨k, hk⟩ := ih h
    exact ⟨k + 1, hk.cons hc rfl rfl⟩

/-- A tail without a number has no snippet, and takes no context line. -/
theorem errorTailFrom_of_line_eq_none
    (h : (errorTailFrom indentedOnly inSnippet lines).line = none) :
    (errorTailFrom indentedOnly inSnippet lines).snippet = none ∧
      ∀ j < (errorTailFrom indentedOnly inSnippet lines).taken,
        lines[j]?.any isContextLine = false := by
  have hcons {t : ErrorTail} {line : Text} {rest : List Text} (hc : contextLine? line = none)
      (ht : ∀ j < t.taken, rest[j]?.any isContextLine = false) :
      ∀ j < t.taken + 1, (line :: rest)[j]?.any isContextLine = false := by
    intro j hj
    cases j with
    | zero => simp [isContextLine, hc]
    | succ j => simpa using ht j (by omega)
  have hnone (rest : List Text) : ∀ j < ({} : ErrorTail).taken,
      rest[j]?.any isContextLine = false := fun j hj => absurd hj (Nat.not_lt_zero j)
  fun_induction errorTailFrom indentedOnly inSnippet lines with
  | case1 => exact ⟨rfl, hnone _⟩
  | case2 inSnippet line rest hs ih =>
    have hc := contextLine?_of_startsBlank (Bool.and_eq_true_iff.mp hs).2
    exact ⟨(ih h).1, hcons hc (ih h).2⟩
  | case3 => exact ⟨rfl, hnone _⟩
  | case4 => cases h
  | case5 => exact ⟨rfl, hnone _⟩
  | case6 inSnippet line rest hs hb hc hh hm ih => exact ⟨(ih h).1, hcons hc (ih h).2⟩
  | case7 => exact ⟨rfl, hnone _⟩
  | case8 inSnippet line rest hs hb hc hh hm hi ih => exact ⟨(ih h).1, hcons hc (ih h).2⟩

/-! ## The end of a tail -/

/-- Whether a tail stops in front of the line: at a blank line, at a heading, and if `indentedOnly`
at a line that is neither indented nor a marker. -/
def stopsTail (indentedOnly : Bool) (line : Text) : Bool :=
  isBlankLine line || isHeading line ||
    (indentedOnly && !startsBlank line && !isSnippetMarker line)

/-- A tail without a context line goes to the end of the lines, or up to a line at which it stops
and which is not passed over. -/
theorem errorTailFrom_stop (h : (errorTailFrom indentedOnly inSnippet lines).line = none) :
    (errorTailFrom indentedOnly inSnippet lines).taken = lines.length ∨
      lines[(errorTailFrom indentedOnly inSnippet lines).taken]?.any (stopsTail indentedOnly) ∧
        isPassedOverFrom inSnippet lines
          (errorTailFrom indentedOnly inSnippet lines).taken = false := by
  fun_induction errorTailFrom indentedOnly inSnippet lines with
  | case1 => exact .inl rfl
  | case2 inSnippet line rest hs ih =>
    simpa [ErrorTail.skip, isPassedOverFrom_cons_succ, hs] using ih h
  | case3 inSnippet line rest hs hb =>
    exact .inr ⟨by simp [stopsTail, hb], Bool.eq_false_iff.mpr hs⟩
  | case4 => cases h
  | case5 inSnippet line rest hs hb hc hh =>
    exact .inr ⟨by simp [stopsTail, hh], Bool.eq_false_iff.mpr hs⟩
  | case6 inSnippet line rest hs hb hc hh hm ih =>
    simpa [ErrorTail.skip, isPassedOverFrom_cons_succ, hs, hm] using ih h
  | case7 inSnippet line rest hs hb hc hh hm hi =>
    have hstop : stopsTail indentedOnly line := by
      simp only [stopsTail, hi, hm, Bool.not_false, Bool.and_self, Bool.or_true]
    exact .inr ⟨hstop, Bool.eq_false_iff.mpr hs⟩
  | case8 inSnippet line rest hs hb hc hh hm hi ih =>
    simpa [ErrorTail.cons, isPassedOverFrom_cons_succ, hs, hm] using ih h

/-- The tail of an error that names its file is a part of the tail that another error has. Wherever
it stops, the other one has taken no less. -/
theorem errorTailFrom_le (inSnippet : Bool) (lines : List Text) :
    (errorTailFrom true inSnippet lines).parts <+: (errorTailFrom false inSnippet lines).parts ∧
      (errorTailFrom true inSnippet lines).taken ≤ (errorTailFrom false inSnippet lines).taken := by
  have hempty (t : ErrorTail) :
      ({} : ErrorTail).parts <+: t.parts ∧ ({} : ErrorTail).taken ≤ t.taken :=
    ⟨List.nil_prefix, Nat.zero_le _⟩
  fun_induction errorTailFrom true inSnippet lines with
  | case1 => exact hempty _
  | case2 inSnippet line rest hs ih =>
    rw [errorTailFrom, if_pos hs]
    exact ⟨ih.1, Nat.succ_le_succ ih.2⟩
  | case3 => exact hempty _
  | case4 inSnippet line rest hs hb n hc => simp [errorTailFrom, hs, hb, hc]
  | case5 => exact hempty _
  | case6 inSnippet line rest hs hb hc hh hm ih =>
    have heq : errorTailFrom false inSnippet (line :: rest) =
        (errorTailFrom false true rest).skip := by
      simp [errorTailFrom, hs, hb, hc, hh, hm]
    rw [heq]
    exact ⟨ih.1, Nat.succ_le_succ ih.2⟩
  | case7 => exact hempty _
  | case8 inSnippet line rest hs hb hc hh hm hi ih =>
    have heq : errorTailFrom false inSnippet (line :: rest) =
        (errorTailFrom false false rest).cons (trim line) := by
      simp [errorTailFrom, hs, hb, hc, hh, hm]
    rw [heq]
    exact ⟨(List.prefix_cons_inj _).mpr ih.1, Nat.succ_le_succ ih.2⟩

/-! ## Tails, exactly -/

/-- What the tail of an error says of the lines behind its heading. -/
structure ErrorTail.Describes (t : ErrorTail) (indentedOnly : Bool) (lines : List Text) : Prop where
  /-- No more lines are taken than there are. -/
  taken_le : t.taken ≤ lines.length
  /-- The parts are the trimmed lines among those taken that are not blank, no headings, no context
  lines and no snippet markers, that are not passed over below a marker, and that do not go on with
  a context line. -/
  parts : t.parts = ((List.range t.taken).filter fun k =>
    lines[k]?.any isTextLine && !isPassedOver lines k && !isBehindContext lines k).map
      fun k => trim (lines.getD k [])
  /-- A line that is passed over is no context line. -/
  passedOver : ∀ k, isPassedOver lines k → lines[k]?.any isContextLine = false
  /-- A number and a snippet are there exactly if a context line is taken. -/
  line_isSome : t.line.isSome ↔ ∃ k < t.taken, lines[k]?.any isContextLine
  snippet_isSome : t.snippet.isSome = t.line.isSome
  /-- The number is that of the only context line, which is the last line taken, or the last but
  one if an indented line is below it. -/
  context : ∀ n, t.line = some n → ∃ k, t.EndsAtContext lines k n
  /-- Without a context line the tail goes to the end, or to a line at which it stops and that is
  not passed over. -/
  stop : t.line = none → t.taken = lines.length ∨
    lines[t.taken]?.any (stopsTail indentedOnly) ∧ isPassedOver lines t.taken = false

theorem any_isContextLine_of_isPassedOver {k : Nat} (h : isPassedOver lines k) :
    lines[k]?.any isContextLine = false := by
  cases k with
  | zero => cases h
  | succ k =>
    simp only [isPassedOver, isPassedOverFrom, Bool.and_eq_true] at h
    exact any_isContextLine_of_startsBlank h.1.1

theorem errorTail_context {n : Nat} (h : (errorTail indentedOnly lines).line = some n) :
    ∃ k, (errorTail indentedOnly lines).EndsAtContext lines k n := errorTailFrom_context h

theorem describes_errorTail (indentedOnly : Bool) (lines : List Text) :
    (errorTail indentedOnly lines).Describes indentedOnly lines where
  taken_le := errorTail_taken_le indentedOnly lines
  parts := errorTailFrom_parts indentedOnly false lines
  passedOver := fun _ => any_isContextLine_of_isPassedOver
  line_isSome := by
    cases hline : (errorTail indentedOnly lines).line with
    | none =>
      have hno := (errorTailFrom_of_line_eq_none hline).2
      constructor
      · intro h
        cases h
      · rintro ⟨k, hk, hcontext⟩
        exact absurd hcontext (by simpa using hno k hk)
    | some n =>
      obtain ⟨k, hk⟩ := errorTail_context hline
      refine ⟨fun _ => ⟨k, ?_, ?_⟩, fun _ => rfl⟩
      · rw [hk.taken]
        split <;> omega
      · obtain ⟨line, hline, hn⟩ := Option.bind_eq_some_iff.mp hk.number
        simp [hline, isContextLine, hn]
  snippet_isSome := by
    cases hline : (errorTail indentedOnly lines).line with
    | none =>
      rw [errorTail, (errorTailFrom_of_line_eq_none hline).1]
      rfl
    | some n =>
      obtain ⟨k, hk⟩ := errorTail_context hline
      rw [hk.snippet]
      rfl
  context := fun _ => errorTail_context
  stop := errorTailFrom_stop

/-- **The tail of an error, exactly.** The tail that is read from line `start` on ends between that
line and the end of the lines, and is what `ErrorTail.Describes` says. If only indented lines go on
with the text, the text is a first part of what it is otherwise, and the tail ends no later. -/
theorem errorTail_describes (lines : List Text) {start : Nat} (hstart : start ≤ lines.length)
    (indentedOnly : Bool) :
    let behind := lines.drop start
    let tail (indentedOnly : Bool) := errorTail indentedOnly behind
    (start ≤ start + (tail indentedOnly).taken ∧
        start + (tail indentedOnly).taken ≤ lines.length) ∧
      (tail indentedOnly).Describes indentedOnly behind ∧
      (tail true).parts <+: (tail false).parts ∧
      start + (tail true).taken ≤ start + (tail false).taken := by
  intro behind tail
  have hdescribes := describes_errorTail indentedOnly behind
  obtain ⟨hparts, htaken⟩ := errorTailFrom_le false behind
  have hle : (tail indentedOnly).taken ≤ lines.length - start := by
    rw [← List.length_drop]
    exact hdescribes.taken_le
  exact ⟨⟨Nat.le_add_right _ _, by omega⟩, hdescribes, hparts, Nat.add_le_add_left htaken start⟩

/-- An error whose text goes on behind a marker with an indented line that looks like another error,
up to its context line. -/
theorem errorTail_describes_around_marker :
    let lines := ["! Missing number.".toList, "  treated as zero".toList,
      "<to be read again> ".toList, "   part.tex:5: Bad.".toList, " and so on".toList,
      "l.5 \\vspace".toList, "          \\foo".toList, "? ".toList]
    1 ≤ lines.length ∧ (errorTail true (lines.drop 1)).Describes true (lines.drop 1) ∧
      (errorTail true (lines.drop 1)).parts = ["treated as zero".toList, "and so on".toList] ∧
      (errorTail true (lines.drop 1)).line = some 5 ∧
      1 + (errorTail true (lines.drop 1)).taken = 7 := by
  intro lines
  have hstart : 1 ≤ lines.length := by decide
  refine ⟨hstart, (errorTail_describes lines hstart true).2.1, ?_, ?_, ?_⟩ <;> decide +kernel

/-- The line that goes on with a context line is no part of the text, although it is a text line
below no marker. -/
theorem context_goes_on_without_part :
    let lines := ["l.4 \\foo".toList, "        bar".toList, "next".toList]
    let tail := errorTail true lines
    tail.taken = 2 ∧
      tail.parts ≠ ((List.range tail.taken).filter fun k =>
        lines[k]?.any isTextLine && !isPassedOver lines k).map fun k => trim (lines.getD k []) := by
  decide +kernel

end Typeset.Log
