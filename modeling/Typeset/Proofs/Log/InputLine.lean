import Mathlib.Data.List.TakeWhile
import Mathlib.Data.Nat.Find
import Typeset.Log.Interpreter
import Typeset.Proofs.Text.Mark
import Typeset.Proofs.Text.Numeral

/-!
# Input lines

The text of a notice may name input lines. One at its end is left out of the excerpt, whereas the
one that is recorded is the first of the text. They are the same if the words in front of the end
name no input line, and not in general: a warning may say where a command was used first before it
says where it is defined again.

## Main definitions

* `Log.NamesInputLine`, `Log.FirstInputLine`: the input lines that a text names, and the first one
* `Log.EndsInInputLine`: the input line at the end of a text
* `Log.HoldsInputLine`: an input line begins in a text

## Main results

* `Log.inputLine?_eq_some_iff`: the input line that is recorded is the first one
* `Log.dropInputLine_of_endsIn`: the input line that is left out is the one at the end
* `Log.last_left_out_first_recorded`: the excerpt and the row of a notice with an input line at
  its end
-/

namespace Typeset.Log

open Text

variable {t u v before front digits : Text} {c : Char} {n : Nat}

/-! ## The input lines of a text -/

/-- The text names the input line `digits` behind `before`. No word goes on behind the number. -/
def NamesInputLine (t before digits : Text) : Prop :=
  Heading.IsLineNumber digits ∧
    ∃ rest, t = before ++ (inputLineMark ++ (digits ++ rest)) ∧ startsWord rest = false

/-- The input line that the text names first, and what stands in front of it. -/
structure FirstInputLine (t before digits : Text) : Prop where
  names : NamesInputLine t before digits
  length_le : ∀ before' digits', NamesInputLine t before' digits' →
    before.length ≤ before'.length

/-- The text ends in the input line `digits`, behind which one period may stand. -/
structure EndsInInputLine (t front digits : Text) : Prop where
  ne_nil : digits ≠ []
  digit : ∀ c ∈ digits, isDigit c
  eq_append : ∃ stop ∈ [[], ['.']], t = front ++ (inputLineMark ++ (digits ++ stop))

/-- The mark of an input line stands in the text, with a digit behind it. -/
def HoldsInputLine (t : Text) : Prop := ∃ c, isDigit c ∧ inputLineMark ++ [c] <:+: t

theorem HoldsInputLine.mono (h : HoldsInputLine u) (hu : u <:+: t) : HoldsInputLine t := by
  obtain ⟨c, hc, hmark⟩ := h
  exact ⟨c, hc, hmark.trans hu⟩

theorem EndsInInputLine.holds (h : EndsInInputLine t front digits) : HoldsInputLine t := by
  obtain ⟨hne, hdigit, stop, -, rfl⟩ := h
  obtain ⟨d, ds, rfl⟩ := List.exists_cons_of_ne_nil hne
  exact ⟨d, hdigit d List.mem_cons_self, front, ds ++ stop, by simp⟩

theorem isDigit_of_mem_inputLineMark (hc : c ∈ inputLineMark) : isDigit c = false := by
  have hall : inputLineMark.all (!isDigit ·) = true := by decide
  simpa using List.all_eq_true.mp hall c hc

/-- No word begins with what may stand behind the input line at the end of a text. -/
theorem startsWord_of_mem_stops (h : t ∈ [[], ['.']]) : startsWord t = false := by
  have hall : ∀ stop ∈ [[], ['.']], startsWord stop = false := by decide
  exact hall t h

/-! ## The input line that is recorded -/

/-- The input line that a text begins with. -/
theorem bind_wholeNumber?_eq_some_iff {rest : Text} :
    (after? inputLineMark t).bind Heading.wholeNumber? = some (n, rest) ↔
      ∃ digits, Heading.IsLineNumber digits ∧ t = inputLineMark ++ (digits ++ rest) ∧
        startsWord rest = false ∧ number digits = n := by
  constructor
  · intro h
    obtain ⟨t', ht', hnumber⟩ := Option.bind_eq_some_iff.mp h
    obtain ⟨digits, hdigits, rfl, hrest, rfl⟩ := Heading.wholeNumber?_eq_some_iff.mp hnumber
    exact ⟨digits, hdigits, after?_eq_some_iff.mp ht', hrest, rfl⟩
  · rintro ⟨digits, hdigits, rfl, hrest, rfl⟩
    rw [after?_append, Option.bind_some, Heading.wholeNumber?_eq_some_iff]
    exact ⟨digits, hdigits, rfl, hrest, rfl⟩

theorem not_namesInputLine_nil : ¬ NamesInputLine [] before digits := by
  intro ⟨_, rest, heq, _⟩
  obtain ⟨-, hmark⟩ := List.append_eq_nil_iff.mp heq.symm
  exact absurd (List.append_eq_nil_iff.mp hmark).1 (by decide)

theorem namesInputLine_cons : NamesInputLine (c :: t) (c :: before) digits ↔
    NamesInputLine t before digits := by
  simp only [NamesInputLine, List.cons_append, List.cons.injEq, true_and]

/-- In front of a text that begins with no input line, the first one is found further down. -/
theorem firstInputLine_cons
    (hnone : (after? inputLineMark (c :: t)).bind Heading.wholeNumber? = none) :
    FirstInputLine (c :: t) before digits ↔
      ∃ later, before = c :: later ∧ FirstInputLine t later digits := by
  have hcons : ∀ b d, NamesInputLine (c :: t) b d → ∃ later, b = c :: later := by
    rintro b d ⟨hd, rest, heq, hrest⟩
    cases b with
    | nil =>
      have hsome := bind_wholeNumber?_eq_some_iff.mpr ⟨d, hd, heq, hrest, rfl⟩
      rw [hnone] at hsome
      cases hsome
    | cons a later =>
      obtain ⟨rfl, -⟩ := List.cons.inj heq
      exact ⟨later, rfl⟩
  constructor
  · intro h
    obtain ⟨later, rfl⟩ := hcons _ _ h.names
    refine ⟨later, rfl, namesInputLine_cons.mp h.names, fun b d hb => ?_⟩
    have hle := h.length_le (c :: b) d (namesInputLine_cons.mpr hb)
    simpa using hle
  · rintro ⟨later, rfl, h⟩
    refine ⟨namesInputLine_cons.mpr h.names, fun b d hb => ?_⟩
    obtain ⟨later', rfl⟩ := hcons b d hb
    have hle := h.length_le later' d (namesInputLine_cons.mp hb)
    simpa using hle

/-- The input line that is recorded is the first one that the text names. -/
theorem inputLine?_eq_some_iff :
    inputLine? t = some n ↔
      ∃ before digits, FirstInputLine t before digits ∧ number digits = n := by
  induction t with
  | nil =>
    constructor
    · intro h
      cases h
    · rintro ⟨before, digits, h, -⟩
      exact absurd h.names not_namesInputLine_nil
  | cons c t ih =>
    cases hhere : (after? inputLineMark (c :: t)).bind Heading.wholeNumber? with
    | none =>
      rw [inputLine?, hhere, ih]
      constructor
      · rintro ⟨before, digits, h, hn⟩
        exact ⟨c :: before, digits, (firstInputLine_cons hhere).mpr ⟨before, rfl, h⟩, hn⟩
      · rintro ⟨before, digits, h, hn⟩
        obtain ⟨later, -, h⟩ := (firstInputLine_cons hhere).mp h
        exact ⟨later, digits, h, hn⟩
    | some found =>
      obtain ⟨m, rest⟩ := found
      obtain ⟨digits, hdigits, heq, hrest, hm⟩ := bind_wholeNumber?_eq_some_iff.mp hhere
      have hnames : NamesInputLine (c :: t) [] digits := ⟨hdigits, rest, heq, hrest⟩
      rw [inputLine?, hhere]
      constructor
      · intro h
        refine ⟨[], digits, ⟨hnames, fun _ _ _ => Nat.zero_le _⟩, ?_⟩
        exact hm.trans (Option.some.inj h)
      · rintro ⟨before, digits', h, rfl⟩
        obtain rfl : before = [] := List.length_eq_zero_iff.mp
          (Nat.le_zero.mp (h.length_le [] digits hnames))
        obtain ⟨hdigits', rest', heq', hrest'⟩ := h.names
        have hhere' := bind_wholeNumber?_eq_some_iff.mpr ⟨digits', hdigits', heq', hrest', rfl⟩
        rw [hhere] at hhere'
        exact congrArg some (Prod.mk.inj (Option.some.inj hhere')).1

theorem exists_firstInputLine (h : NamesInputLine t before digits) :
    ∃ before digits, FirstInputLine t before digits := by
  classical
  have hex : ∃ k before digits, NamesInputLine t before digits ∧ before.length = k :=
    ⟨_, before, digits, h, rfl⟩
  obtain ⟨b, d, hnames, hlength⟩ := Nat.find_spec hex
  refine ⟨b, d, hnames, fun b' d' h' => ?_⟩
  rw [hlength]
  exact Nat.find_min' hex ⟨b', d', h', rfl⟩

/-- Behind a text that holds no input line, the next one is the first. The mark of an earlier one
would end within the text, with its digits behind it. -/
theorem firstInputLine_append (hfront : ¬ HoldsInputLine front)
    (hdigits : Heading.IsLineNumber digits) (hv : startsWord v = false) :
    FirstInputLine (front ++ (inputLineMark ++ (digits ++ v))) front digits := by
  refine ⟨⟨hdigits, v, rfl, hv⟩, ?_⟩
  rintro before' digits' ⟨hdigits', rest, heq, -⟩
  rcases List.append_eq_append_iff.mp heq with ⟨w, rfl, -⟩ | ⟨w, rfl, hw⟩
  · rw [List.length_append]
    exact Nat.le_add_right _ _
  · cases w with
    | nil => exact Nat.le_of_eq (by rw [List.append_nil])
    | cons a w =>
      refine absurd ?_ hfront
      have hmark : inputLineMark = 'o' :: inputLineMark.tail := rfl
      have hpre : inputLineMark <+: a :: w := by
        rw [hmark]
        refine isPrefix_of_append_mark (v := inputLineMark.tail ++ (digits ++ v)) (by decide)
          (List.cons_ne_nil a w) ?_
        rw [← List.cons_append, ← hmark]
        exact ⟨digits' ++ rest, hw⟩
      obtain ⟨w', hw'⟩ := hpre
      rw [← hw', List.append_assoc] at hw
      have hrest := List.append_cancel_left hw
      obtain ⟨d, ds, hd⟩ := List.exists_cons_of_ne_nil hdigits'.ne_nil
      subst hd
      have hdigit : isDigit d := hdigits'.digit d List.mem_cons_self
      refine ⟨d, hdigit, ?_⟩
      cases w' with
      | nil =>
        obtain ⟨rfl, -⟩ := List.cons.inj hrest
        exact absurd hdigit (by decide)
      | cons b w' =>
        obtain ⟨rfl, -⟩ := List.cons.inj hrest
        rw [← hw']
        exact ⟨before', w', by simp⟩

/-! ## The input line that is left out -/

theorem dropPeriod_append (t : Text) : dropPeriod (t ++ ['.']) = t := by
  simp [dropPeriod]

theorem dropPeriod_of_getLast? (h : t.getLast? ≠ some '.') : dropPeriod t = t := if_neg h

theorem exists_eq_dropPeriod_append (t : Text) :
    ∃ stop ∈ [[], ['.']], t = dropPeriod t ++ stop := by
  by_cases h : t.getLast? = some '.'
  · obtain ⟨u, rfl⟩ := List.getLast?_eq_some_iff.mp h
    exact ⟨['.'], by simp, by rw [dropPeriod_append]⟩
  · exact ⟨[], by simp, by rw [dropPeriod_of_getLast? h, List.append_nil]⟩

theorem dropPeriod_isPrefix (t : Text) : dropPeriod t <+: t := by
  obtain ⟨stop, -, ht⟩ := exists_eq_dropPeriod_append t
  exact ⟨stop, ht.symm⟩

theorem dropInputLine_of_endsIn (h : EndsInInputLine t front digits) :
    dropInputLine t = trimRight front := by
  obtain ⟨hne, hdigit, stop, hstop, rfl⟩ := h
  have hlast : ∀ c ∈ (front ++ inputLineMark).getLast?, isDigit c = false := by
    intro c hc
    rw [List.getLast?_append_of_ne_nil _ (by decide)] at hc
    exact isDigit_of_mem_inputLineMark (List.mem_of_mem_getLast? hc)
  have hperiod : dropPeriod (front ++ (inputLineMark ++ (digits ++ stop))) =
      front ++ inputLineMark ++ digits := by
    have hassoc : front ++ (inputLineMark ++ (digits ++ stop)) =
        front ++ inputLineMark ++ digits ++ stop := by simp
    rw [hassoc]
    rcases List.mem_pair.mp hstop with rfl | rfl
    · rw [List.append_nil]
      refine dropPeriod_of_getLast? fun hend => ?_
      rw [List.getLast?_append_of_ne_nil _ hne] at hend
      exact absurd (hdigit _ (List.mem_of_mem_getLast? hend)) (by decide)
    · exact dropPeriod_append _
  have hempty : digits.isEmpty = false := by simpa using hne
  have hmark : after? inputLineMark.reverse (front ++ inputLineMark).reverse =
      some front.reverse := by
    rw [List.reverse_append]
    exact after?_append _ _
  simp only [dropInputLine, hperiod, takeEnd_append_of_getLast? hlast hdigit,
    dropEnd_append_of_getLast? hlast hdigit, hempty, hmark, List.reverse_reverse]
  rfl

/-- Any other text stays as it is. -/
theorem dropInputLine_of_not_endsIn (h : ∀ front digits, ¬ EndsInInputLine t front digits) :
    dropInputLine t = t := by
  simp only [dropInputLine]
  split
  · rfl
  · next hempty =>
    split
    · next before hbefore =>
      obtain ⟨stop, hstop, ht⟩ := exists_eq_dropPeriod_append t
      refine absurd ?_ (h before.reverse (takeEnd isDigit (dropPeriod t)))
      refine ⟨by simpa using hempty, ?_, stop, hstop, ?_⟩
      · intro c hc
        exact List.mem_takeWhile_imp (List.mem_reverse.mp hc)
      · have hmark : dropEnd isDigit (dropPeriod t) = before.reverse ++ inputLineMark := by
          have hreverse := congrArg List.reverse (after?_eq_some_iff.mp hbefore)
          simpa using hreverse
        calc t = dropPeriod t ++ stop := ht
          _ = dropEnd isDigit (dropPeriod t) ++ takeEnd isDigit (dropPeriod t) ++ stop := by
            rw [dropEnd_append_takeEnd]
          _ = before.reverse ++ (inputLineMark ++ (takeEnd isDigit (dropPeriod t) ++ stop)) := by
            rw [hmark]
            simp only [List.append_assoc]
    · rfl

/-! ## Notices -/

/-- A label ends in a colon and a space. -/
theorem noticeLabel_eq (source : Source) (name : Option Text) :
    noticeLabel source name = [] ∨ ∃ label, noticeLabel source name = label ++ ": ".toList := by
  cases name with
  | some name => exact .inr ⟨source.label ++ ' ' :: name, rfl⟩
  | none =>
    cases source with
    | package => exact .inr ⟨_, rfl⟩
    | documentClass => exact .inr ⟨_, rfl⟩
    | latex => exact .inl rfl

/-- An input line at the end of a labelled text stands behind the label. -/
theorem EndsInInputLine.of_label {source : Source} {name : Option Text}
    (h : EndsInInputLine (noticeLabel source name ++ t) front digits) :
    ∃ front', EndsInInputLine t front' digits := by
  obtain ⟨hne, hdigit, stop, hstop, heq⟩ := h
  rcases noticeLabel_eq source name with hlabel | ⟨label, hlabel⟩
  · rw [hlabel, List.nil_append] at heq
    exact ⟨front, hne, hdigit, stop, hstop, heq⟩
  have hcolon : ':' ∉ inputLineMark ++ (digits ++ stop) := by
    intro hmem
    rcases List.mem_append.mp hmem with hmem | hmem
    · exact absurd hmem (by decide)
    · rcases List.mem_append.mp hmem with hmem | hmem
      · exact absurd (hdigit _ hmem) (by decide)
      · have hall : ∀ stop ∈ [[], ['.']], ':' ∉ stop := by decide
        exact hall stop hstop hmem
  have hcut : label ++ ':' :: ' ' :: t = front ++ (inputLineMark ++ (digits ++ stop)) := by
    rw [hlabel, List.append_assoc] at heq
    exact heq
  rcases List.append_eq_append_iff.mp hcut with ⟨w, rfl, hw⟩ | ⟨w, rfl, hw⟩
  · cases w with
    | nil => exact absurd (List.cons.inj hw).1 (by decide)
    | cons a w =>
      obtain ⟨-, hw⟩ := List.cons.inj hw
      cases w with
      | nil => exact absurd (List.cons.inj hw).1 (by decide)
      | cons b w => exact ⟨w, hne, hdigit, stop, hstop, (List.cons.inj hw).2⟩
  · refine absurd ?_ hcolon
    rw [hw]
    exact List.mem_append_right w List.mem_cons_self

/-- The text of a notice, with the lines that go on with it. -/
def noticeText (name : Option Text) (message : Text) (rest : List Text) : Text :=
  squeeze (noticeTail name message rest).1

theorem sourceRow_eq_max (n : Nat) : sourceRow n = max ((n : Int) - 1) 0 := by
  unfold sourceRow
  omega

section Notice

variable {name : Option Text} {message : Text} {rest : List Text}

/-- **The last input line is left out, the first one is recorded.** Let the text of a notice end in
an input line with at most nine digits. The excerpt is what stands in front of it, without blanks
and a period at its end, behind the label. The row is that of the input line which the text names
first. If the words in front of the last one hold no input line, the row is that of the last one,
and the excerpt ends in no input line. -/
theorem last_left_out_first_recorded (x : Context) (row : Nat) (line : Text) (source : Source)
    (volume : Volume)
    (hend : EndsInInputLine (noticeText name message rest) front digits)
    (hlength : digits.length ≤ 9) :
    ∃ d, (claim x row line rest (.notice source name volume message)).diagnostic = some d ∧
      d.excerpt = noticeLabel source name ++ dropPeriod (trimRight front) ∧
      (∃ before first, FirstInputLine (noticeText name message rest) before first ∧
        d.startRow = max ((number first : Int) - 1) 0) ∧
      (¬ HoldsInputLine front → d.startRow = max ((number digits : Int) - 1) 0 ∧
        ∀ front' digits', ¬ EndsInInputLine d.excerpt front' digits') := by
  have hdigits : Heading.IsLineNumber digits := ⟨hend.ne_nil, hlength, hend.digit⟩
  obtain ⟨stop, hstop, heq⟩ := hend.eq_append
  have hword : startsWord stop = false := startsWord_of_mem_stops hstop
  have hnames : NamesInputLine (noticeText name message rest) front digits :=
    ⟨hdigits, stop, heq, hword⟩
  obtain ⟨before, first, hfirst⟩ := exists_firstInputLine hnames
  have hrow : ∀ {b f : Text}, FirstInputLine (noticeText name message rest) b f →
      sourceRow ((inputLine? (noticeText name message rest)).getD 0) =
        max ((number f : Int) - 1) 0 := by
    intro b f hf
    rw [inputLine?_eq_some_iff.mpr ⟨b, f, hf, rfl⟩, Option.getD_some, sourceRow_eq_max]
  refine ⟨_, rfl, ?_, ⟨before, first, hfirst, hrow hfirst⟩, fun hfront => ⟨?_, ?_⟩⟩
  · exact congrArg (fun t => noticeLabel source name ++ dropPeriod t) (dropInputLine_of_endsIn hend)
  · have hlast := firstInputLine_append hfront hdigits hword
    rw [← heq] at hlast
    exact hrow hlast
  · intro front' digits' hagain
    have hexcerpt : EndsInInputLine
        (noticeLabel source name ++ dropPeriod (trimRight front)) front' digits' := by
      rw [← dropInputLine_of_endsIn hend]
      exact hagain
    obtain ⟨front'', hagain⟩ := hexcerpt.of_label
    refine hfront (hagain.holds.mono ?_)
    exact ((dropPeriod_isPrefix _).trans (dropEnd_isPrefix isBlank front)).isInfix

end Notice

/-- An input line that a continuation line completes. -/
theorem input_line_on_continuation :
    let message := "Token not allowed in a PDF string (Unicode):".toList
    let rest := ["(hyperref)                removing `math shift' on input line 7.".toList]
    let front := "Token not allowed in a PDF string (Unicode): removing `math shift' ".toList
    (EndsInInputLine (noticeText (some "hyperref".toList) message rest) front "7".toList ∧
        "7".toList.length ≤ 9 ∧ ¬ HoldsInputLine front) ∧
      ∀ x : Context, ∃ d ∈ (claim x 1 [] rest
          (.notice .package (some "hyperref".toList) .warning message)).diagnostic,
        d.startRow = 6 := by
  intro message rest front
  have hend : EndsInInputLine (noticeText (some "hyperref".toList) message rest) front
      "7".toList := by
    have hdigit : "7".toList.all isDigit = true := by decide
    exact ⟨by decide, List.all_eq_true.mp hdigit, ['.'], by decide, by decide +kernel⟩
  have hfront : ¬ HoldsInputLine front := by
    rintro ⟨c, -, hmark⟩
    have hnone : ¬ inputLineMark <:+: front := by decide +kernel
    exact hnone ((List.prefix_append inputLineMark [c]).isInfix.trans hmark)
  refine ⟨⟨hend, by decide, hfront⟩, fun x => ?_⟩
  obtain ⟨d, hd, -, -, hlast⟩ := last_left_out_first_recorded x 1 [] .package .warning hend
    (by decide)
  exact ⟨d, hd, (hlast hfront).1⟩

/-- A warning that names an earlier input line is recorded there. -/
theorem recorded_at_earlier_input_line :
    let root := Path.ofString "/doc/main.tex"
    let message :=
      "Command \\foo first used on input line 3 is redefined on input line 7.".toList
    let front := "Command \\foo first used on input line 3 is redefined ".toList
    let log := "Banner\nLaTeX Warning: ".toList ++ message
    (logLines log)[1]?.bind Heading.ofLine? = some (.notice .latex none .warning message) ∧
      EndsInInputLine (noticeText none message []) front "7".toList ∧
      (read root log).diagnostics.map (fun d => (d.excerpt, d.startRow)) =
        [("Command \\foo first used on input line 3 is redefined".toList, 2)] ∧
      (2 : Int) ≠ max ((number "7".toList : Int) - 1) 0 := by
  intro root message front log
  have hdigit : "7".toList.all isDigit = true := by decide
  refine ⟨by decide +kernel, ?_, by decide +kernel, by decide⟩
  exact ⟨by decide, List.all_eq_true.mp hdigit, ['.'], by decide, by decide +kernel⟩

end Typeset.Log
