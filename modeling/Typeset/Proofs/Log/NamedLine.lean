import Typeset.Proofs.Log.Item

/-!
# Errors that name their file and line

An error that names its file is written as the name, a line number and a message. The message may
say anything, and it may name a line of a file itself. The name of the file that the error is about
is read as far as it can be, so such an error is taken to be about the line that its message names
last, in a file whose name begins with all that stands in front. All other errors are read back.

## Main definitions

* `Log.NamesLine`: a message that names a line of a source file
* `Log.namedErrorLine`: the line of an error that names its file
* `Log.ReadAs`: what is read from a line that names a file

## Main results

* `Log.Heading.sourceAndError?_append`: more in front of a name belongs to the name
* `Log.read_back_iff`: an error is read back exactly if its message names no line
-/

namespace Typeset.Log

open Text

/-! ## Names of lines -/

/-- A line of a source file is named in the text, with a message behind it. -/
def NamesLine (t : Text) : Prop :=
  ∃ front digits message, Heading.IsNumbered digits message ∧
    t = front ++ Heading.lineText digits message

namespace Heading

@[simp] theorem mem_lineText {digits m : Text} {c : Char} :
    c ∈ lineText digits m ↔ c ∈ sourceMark ∨ c ∈ digits ∨ c ∈ ": ".toList ∨ c ∈ m := by
  simp only [lineText, List.mem_append]

theorem numbered?_append {digits m : Text} (h : IsNumbered digits m) :
    numbered? (digits ++ (": ".toList ++ m)) = (errorText? m).map fun e => (number digits, e) := by
  have hnumber : shortNumber? (digits ++ (": ".toList ++ m)) =
      some (number digits, ": ".toList ++ m) := by
    refine shortNumber?_append h.ne_nil h.length_le h.digit ?_
    rintro _ ⟨⟩
    decide
  simp only [numbered?, Option.bind_eq_bind, hnumber, Option.bind_some, after?_append]
  cases errorText? m <;> rfl

/-- What stands in front of a name that is read belongs to the name. -/
theorem sourceAndError?_append {t base : Text} {e : Nat × Option Text × Text}
    (h : sourceAndError? t = some (base, e)) {front : Text} (hfeed : '\n' ∉ front) :
    sourceAndError? (front ++ t) = some (front ++ base, e) := by
  induction front with
  | nil => exact h
  | cons c front ih =>
    have hc : c ≠ '\n' := fun heq => hfeed (heq ▸ List.mem_cons_self)
    have hfront := ih fun hmem => hfeed (List.mem_cons_of_mem c hmem)
    rw [List.cons_append, sourceAndError?, if_neg hc, hfront]
    rfl

/-- Where a numbered error stands behind a source mark, a name is read that ends there, unless one
is read that ends further behind. -/
theorem sourceAndError?_mark {digits m : Text} (h : IsNumbered digits m) :
    sourceAndError? (lineText digits m) =
      ((sourceAndError? ("tex:".toList ++ (digits ++ (": ".toList ++ m)))).map
        fun (p, e) => ('.' :: p, e)).or
          ((errorText? m).map fun e => ([], number digits, e)) := by
  have hcons : lineText digits m = '.' :: ("tex:".toList ++ (digits ++ (": ".toList ++ m))) := rfl
  have hc : ('.' : Char) ≠ '\n' := by decide
  rw [hcons, sourceAndError?, if_neg hc, ← hcons, lineText, after?_append]
  simp only [Option.bind_eq_bind, Option.bind_some, numbered?_append h]
  cases sourceAndError? ("tex:".toList ++ (digits ++ (": ".toList ++ m))) with
  | some found => rfl
  | none => cases errorText? m <;> rfl

end Heading

/-- A line is named behind all that holds no period. The mark of a source file begins with one. -/
theorem NamesLine.of_append {u t : Text} (h : NamesLine (u ++ t)) (hu : '.' ∉ u) :
    NamesLine t := by
  obtain ⟨front, digits, message, hnumbered, heq⟩ := h
  rcases List.append_eq_append_iff.mp heq with ⟨v, -, rfl⟩ | ⟨v, rfl, hv⟩
  · exact ⟨v, digits, message, hnumbered, rfl⟩
  · cases v with
    | nil => exact ⟨[], digits, message, hnumbered, hv.symm⟩
    | cons c v =>
      obtain rfl : '.' = c := (List.cons.inj hv).1
      exact absurd (by simp) hu

/-! ## Errors read back -/

/-- The line of an error about line `n` of the source file that `base` names. -/
def namedErrorLine (base : Text) (n : Nat) (message : Text) : Text :=
  base ++ Heading.lineText (numeral n) message

theorem namedErrorLine_append (base : Text) (n : Nat) (m t : Text) :
    namedErrorLine base n (m ++ t) = namedErrorLine base n m ++ t := by
  simp [namedErrorLine, Heading.lineText]

/-- With an empty line behind it, a line is read as the error whose text is `message`, about line
`n` of the source file that `base` names. -/
def ReadAs (x : Context) (row : Nat) (line : Text) (later : List Text) (base : Text) (n : Nat)
    (message : Text) : Prop :=
  ∃ h d, Heading.fileLine? line = some h ∧
    (claim x row line ([] :: later) h).diagnostic = some d ∧
    d.summary = (.error, squeeze message,
      .ofPath (x.resolve (base ++ ".tex".toList)) ⟨⟨n - 1, 0⟩, ⟨n - 1, restOfLine⟩⟩)

/-- An error that names its file says its message, if an empty line is behind it. -/
theorem exists_diagnostic_fileLine (x : Context) (row : Nat) (line : Text) (later : List Text)
    (path : Text) (n : Nat) {message : Text} (hhelp : isHelpText message = false) :
    ∃ d, (claim x row line ([] :: later) (.fileLine path n none message)).diagnostic = some d ∧
      d.summary = (.error, squeeze message,
        .ofPath (x.resolve path) (.lines (sourceRow n) none)) := by
  rw [claim_fileLine _ _ _ _ _ _ _ hhelp]
  exact ⟨_, rfl, rfl⟩

section NamedError

variable {base message : Text} {n : Nat}

/-- A message that names no line is found behind the name and the number that were written. Behind
the mark there is no name that could be read instead. -/
theorem fileLine?_of_not_namesLine (hbase : base ≠ []) (hfeed : '\n' ∉ base) (hmax : n ≤ 999999999)
    (hne : message ≠ []) (hmessage : '\n' ∉ message) (horigin : ¬ " Error: ".toList <:+: message)
    (hnames : ¬ NamesLine message) :
    Heading.fileLine? (namedErrorLine base n message) =
      some (.fileLine (base ++ ".tex".toList) n none message) := by
  have hnumbered : Heading.IsNumbered (numeral n) message :=
    ⟨numeral_ne_nil n, length_numeral_le hmax, fun _ => isDigit_of_mem_numeral, hne⟩
  have htext : errorText? message = some (none, message) :=
    errorText?_of_not_isInfix hne hmessage horigin
  have hbehind : Heading.sourceAndError?
      ("tex:".toList ++ (numeral n ++ (": ".toList ++ message))) = none := by
    refine Option.eq_none_iff_forall_ne_some.mpr fun ⟨longer, k, e⟩ hlonger => hnames ?_
    obtain ⟨digits, rest, hrest, -, -, heq⟩ := Heading.exists_of_sourceAndError? hlonger
    have hline : NamesLine ("tex:".toList ++ (numeral n ++ ": ".toList) ++ message) :=
      ⟨longer, digits, rest, hrest, by simpa using heq⟩
    refine hline.of_append ?_
    simp only [List.mem_append, not_mem_numeral (show isDigit '.' = false by decide), false_or]
    decide
  have hmark := Heading.sourceAndError?_mark hnumbered
  rw [hbehind, htext, number_numeral] at hmark
  have hsource : Heading.sourceAndError? (namedErrorLine base n message) =
      some (base, n, none, message) := by
    rw [namedErrorLine, Heading.sourceAndError?_append hmark hfeed, List.append_nil]
  simp [Heading.fileLine?, hsource, hbase]

/-- Behind a message that names a line, the last line that it names is read, as one of a file whose
name begins with all that stands in front. -/
theorem fileLine?_of_namesLine (hfeed : '\n' ∉ base) (hmessage : '\n' ∉ message)
    (horigin : ¬ " Error: ".toList <:+: message) (hnames : NamesLine message) :
    ∃ front digits rest,
      message = front ++ Heading.lineText digits rest ∧
        Heading.fileLine? (namedErrorLine base n message) =
          some (.fileLine (namedErrorLine base n front ++ ".tex".toList) (number digits) none
            rest) := by
  obtain ⟨front, digits, back, hback, rfl⟩ := hnames
  have hnofeed : '\n' ∉ back := fun hmem => hmessage (by simp [hmem])
  obtain ⟨name, k, e, hfound⟩ :
      ∃ name k e, Heading.sourceAndError? (Heading.lineText digits back) = some (name, k, e) := by
    rw [Heading.sourceAndError?_mark hback, errorText?, message?_eq_some hback.message hnofeed]
    cases Heading.sourceAndError? ("tex:".toList ++ (digits ++ (": ".toList ++ back))) with
    | some found => exact ⟨_, _, _, rfl⟩
    | none => exact ⟨_, _, _, rfl⟩
  obtain ⟨digits', rest, hrest, rfl, htext, heq⟩ := Heading.exists_of_sourceAndError? hfound
  rw [heq] at hmessage horigin hfound ⊢
  have hsuffix : rest <:+ front ++ (name ++ Heading.lineText digits' rest) :=
    ⟨front ++ (name ++ (Heading.sourceMark ++ (digits' ++ ": ".toList))), by
      simp [Heading.lineText]⟩
  obtain rfl : (none, rest) = e := by
    rw [errorText?_of_not_isInfix hrest.message (fun hmem => hmessage (hsuffix.subset hmem))
      fun hmark => horigin (hmark.trans hsuffix.isInfix)] at htext
    exact Option.some.inj htext
  have hfront : '\n' ∉ namedErrorLine base n front := by
    have hnotfront : '\n' ∉ front := fun hmem => hmessage (by simp [hmem])
    simp only [namedErrorLine, List.mem_append, Heading.mem_lineText, hfeed, hnotfront,
      not_mem_numeral (show isDigit '\n' = false by decide), false_or, or_false]
    decide
  have hline := Heading.sourceAndError?_append hfound hfront
  refine ⟨front ++ name, digits', rest, (List.append_assoc _ _ _).symm, ?_⟩
  have hname : namedErrorLine base n front ++ name ≠ [] := by
    simp [namedErrorLine, Heading.lineText, Heading.sourceMark]
  rw [namedErrorLine_append, namedErrorLine_append, Heading.fileLine?, hline]
  simp [hname]

/-- **Errors are read back if they name no other line.** Let an error that names its file be
written, with an empty line behind it. Its message is on one line, is no help text and names no
origin. Then the error is read back, with its file, its line and its text, exactly if the message
does not name a line of a source file. -/
theorem read_back_iff (x : Context) (row : Nat) (later : List Text) (hbase : base ≠ [])
    (hfeed : '\n' ∉ base) (hpos : 1 ≤ n) (hmax : n ≤ 999999999) (hne : message ≠ [])
    (hmessage : '\n' ∉ message) (hhelp : ∀ start ∈ helpMarks, ¬ start <+: message)
    (horigin : ¬ " Error: ".toList <:+: message) :
    ReadAs x row (namedErrorLine base n message) later base n message ↔ ¬ NamesLine message := by
  constructor
  · rintro ⟨h, d, hh, hd, hsummary⟩ hnames
    obtain ⟨front, digits, rest, rfl, hline⟩ :=
      fileLine?_of_namesLine (n := n) hfeed hmessage horigin hnames
    obtain rfl := Option.some.inj (hline.symm.trans hh)
    cases hrest : isHelpText rest with
    | true => simp [claim, hrest] at hd
    | false =>
      obtain ⟨d', hd', hsummary'⟩ := exists_diagnostic_fileLine x row _ later _ _ hrest
      obtain rfl := Option.some.inj (hd'.symm.trans hd)
      rw [hsummary'] at hsummary
      have hexcerpt := (Prod.mk.inj (Prod.mk.inj hsummary).2).1
      have hparts : front ++ Heading.lineText digits rest =
          (front ++ (Heading.sourceMark ++ (digits ++ [':']))) ++ ' ' :: rest := by
        simp [Heading.lineText]
      rw [hparts] at hexcerpt
      exact squeeze_append_blank_ne (c := ':') (by decide) (by simp) (by decide) hexcerpt.symm
  · intro hnames
    have hline := fileLine?_of_not_namesLine hbase hfeed hmax hne hmessage horigin hnames
    obtain ⟨d, hd, hsummary⟩ := exists_diagnostic_fileLine x row (namedErrorLine base n message)
      later (base ++ ".tex".toList) n (isHelpText_eq_false hhelp)
    refine ⟨_, d, hline, hd, ?_⟩
    rw [hsummary, Span.lines_none, sourceRow_of_pos hpos]

end NamedError

/-- A message may name a file without a line. It holds no digit then. -/
theorem read_back_missing_file :
    let x : Context := ⟨Path.ofString "/doc/main.tex", ⟨Path.ofString "/doc/main.tex", []⟩⟩
    let base := "chapters/intro".toList
    let message := "File part.tex: not found.".toList
    (base ≠ [] ∧ '\n' ∉ base ∧ message ≠ [] ∧ '\n' ∉ message ∧
        (∀ start ∈ helpMarks, ¬ start <+: message) ∧ ¬ " Error: ".toList <:+: message) ∧
      ReadAs x 4 "chapters/intro.tex:7: File part.tex: not found.".toList [] base 7 message := by
  intro x base message
  have hbase : base ≠ [] ∧ '\n' ∉ base := by decide
  have hmessage : message ≠ [] ∧ '\n' ∉ message := by decide
  have hhelp : ∀ start ∈ helpMarks, ¬ start <+: message := by decide
  have horigin : ¬ " Error: ".toList <:+: message := by decide
  have hread := read_back_iff x 4 [] hbase.1 hbase.2 (n := 7) (by decide) (by decide) hmessage.1
    hmessage.2 hhelp horigin
  refine ⟨⟨hbase.1, hbase.2, hmessage.1, hmessage.2, hhelp, horigin⟩, hread.mpr ?_⟩
  rintro ⟨front, digits, rest, hnumbered, heq⟩
  obtain ⟨d, hd⟩ := List.exists_mem_of_ne_nil digits hnumbered.ne_nil
  have hmem : d ∈ message := by
    rw [heq]
    simp only [List.mem_append, Heading.mem_lineText, hd, true_or, or_true]
  have hnone : message.any isDigit = false := by decide +kernel
  exact List.any_eq_false.mp hnone d hmem (hnumbered.digit d hd)

/-- The line that a message names is taken for the line of the error. -/
theorem read_as_line_of_message :
    let x : Context := ⟨Path.ofString "/doc/main.tex", ⟨Path.ofString "/doc/main.tex", []⟩⟩
    let message := "see part.tex:7: there".toList
    let line := "main.tex:5: see part.tex:7: there".toList
    line = namedErrorLine "main".toList 5 message ∧
      (message ≠ [] ∧ '\n' ∉ message ∧ (∀ start ∈ helpMarks, ¬ start <+: message) ∧
        ¬ " Error: ".toList <:+: message) ∧
      ¬ ReadAs x 0 line [] "main".toList 5 message ∧
      ReadAs x 0 line [] "main.tex:5: see part".toList 7 "there".toList := by
  intro x message line
  have hline : Heading.fileLine? line =
      some (.fileLine "main.tex:5: see part.tex".toList 7 none "there".toList) := by decide +kernel
  refine ⟨by decide +kernel, ⟨by decide, by decide, by decide, by decide⟩, ?_, ?_⟩
  · rintro ⟨h, d, hh, hd, hsummary⟩
    obtain rfl := Option.some.inj (hline.symm.trans hh)
    obtain rfl := Option.some.inj hd
    revert hsummary
    decide +kernel
  · exact ⟨_, _, hline, rfl, by decide +kernel⟩

end Typeset.Log
