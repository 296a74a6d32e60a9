import Typeset.Proofs.Log.Boundary
import Typeset.Proofs.Log.Form
import Typeset.Proofs.Log.InputLine
import Typeset.Proofs.Text.Mark
import Typeset.Proofs.Text.Numeral

/-!
# Items of a log

An item is a box that does not fit, a warning about an input line, or an error with its source.
Items are written as a compilation writes them, and what is written is read back: the lines of an
item are one message, whose diagnostic has the severity, the text and the source lines of the item.

## Main definitions

* `Log.Item`, `Log.Item.lines`: an item and the lines in which it is written
* `Log.Item.WellFormed`: the texts that an item may hold
* `Log.Item.summary`, `Diagnostic.summary`: what an item and a diagnostic say

## Main results

* `Log.Item.segments_lines`: the lines of an item are read as one message that says what it says
-/

namespace Typeset

/-! ## Parts of a text -/

namespace Text

variable {u v : Text} {c : Char}

/-- The space behind a first word shows where it ends. -/
theorem IsToken.append_space_inj {w w' t t' : Text} (hw : IsToken w) (hw' : IsToken w')
    (h : w ++ ' ' :: t = w' ++ ' ' :: t') : w = w' ∧ t = t' := by
  have hspace (t : Text) : ∀ c ∈ (' ' :: t).head?, (!isBlank c) = false := by
    rintro _ ⟨⟩
    decide
  have hnot {w : Text} (hw : IsToken w) : ∀ c ∈ w, !isBlank c := fun c hc => by simp [hw.2 c hc]
  have heq : w = w' := by
    rw [← takeWhile_append_of_head? (hnot hw) (hspace t), h,
      takeWhile_append_of_head? (hnot hw') (hspace t')]
  subst heq
  exact ⟨rfl, (List.cons.inj (List.append_cancel_left h)).2⟩

/-! ## Carriage returns -/

theorem dropReturn_of_getLast? (h : u.getLast? ≠ some '\r') : dropReturn u = u := if_neg h

/-- A carriage return at the end stands behind each other character. -/
theorem dropReturn_append_cons (hc : c ≠ '\r') :
    dropReturn (u ++ c :: v) = u ++ c :: dropReturn v := by
  rcases List.eq_nil_or_concat v with rfl | ⟨v, d, rfl⟩
  · simp [dropReturn, hc]
  · have hfront : u ++ c :: (v ++ [d]) = u ++ c :: v ++ [d] := by simp
    rw [dropReturn, dropReturn, List.concat_eq_append, hfront, List.getLast?_concat,
      List.getLast?_concat, List.dropLast_concat, List.dropLast_concat]
    split <;> simp

end Text

/-- What a diagnostic says of the source. -/
def Diagnostic.summary (d : Diagnostic) : Severity × Text × Location :=
  (d.severity, d.excerpt, d.location)

namespace Log

open Text

/-! ## Items -/

/-- An item of a log. -/
inductive Item where
  /-- A box with a measure that does not fit, set from the lines `first` to `last`. -/
  | box (word : Text) (direction : Char) (measure : Text) (first last : Nat)
  /-- A warning about an input line. -/
  | warning (message : Text) (line : Nat)
  /-- An error, with the source around it. -/
  | fatal (message : Text) (line : Nat) (source : Text)
  deriving DecidableEq, Repr

/-- How the message of a box begins. -/
def boxHead (word : Text) (direction : Char) (measure : Text) : Text :=
  word ++ " \\".toList ++ direction :: "box (".toList ++ measure ++ ")".toList

/-- The line of a box. -/
def boxLine (word : Text) (direction : Char) (measure : Text) (first last : Nat) : Text :=
  boxHead word direction measure ++ " in paragraph at lines ".toList ++ numeral first ++
    "--".toList ++ numeral last

/-- The words of a warning. -/
def warningWords (message : Text) (line : Nat) : Text :=
  message ++ " on input line ".toList ++ numeral line ++ ".".toList

/-- The context line of an error. -/
def contextLine (line : Nat) (source : Text) : Text := "l.".toList ++ numeral line ++ ' ' :: source

namespace Item

/-- The lines in which the item is written. -/
def lines : Item → List Text
  | box word direction measure first last => [boxLine word direction measure first last]
  | warning message line => ["LaTeX Warning: ".toList ++ warningWords message line]
  | fatal message line source => ["! ".toList ++ message, contextLine line source]

/-- The item can be read from its lines. Its line numbers count from one and have nine digits at
most. No text holds a line feed, and messages have single spaces between their words. Besides, a
text does not hold what would be read as another part of its line. -/
def WellFormed : Item → Prop
  | box word direction measure first last =>
    word ∈ ["Overfull".toList, "Underfull".toList] ∧ direction ∈ ['h', 'v', 'd'] ∧
      ')' ∉ measure ∧ '\n' ∉ measure ∧ ¬ ".tex:".toList <:+: measure ∧
      1 ≤ first ∧ first ≤ last ∧ last ≤ 999999999
  | warning message line =>
    IsPhrase message ∧ message ≠ [] ∧ ¬ ".tex:".toList <:+: message ∧
      ¬ "Warning:".toList <+: message ∧ ¬ "Info:".toList <+: message ∧
      ¬ "on input line".toList <:+: message ∧ message.getLast? ≠ some '.' ∧
      1 ≤ line ∧ line ≤ 999999999
  | fatal message line source =>
    IsPhrase message ∧ message ≠ [] ∧ (∀ start ∈ helpMarks, ¬ start <+: message) ∧
      ¬ " Error: ".toList <:+: message ∧ '\n' ∉ source ∧ 1 ≤ line ∧ line ≤ 999999999

instance : (it : Item) → Decidable it.WellFormed
  | box .. | warning .. | fatal .. => inferInstanceAs (Decidable (_ ∧ _))

/-- How severe the item is. -/
def severity : Item → Severity
  | box .. => .info
  | warning .. => .warning
  | fatal .. => .error

/-- What the item says. -/
def excerpt : Item → Text
  | box word direction measure _ _ => boxHead word direction measure
  | warning message _ => message
  | fatal message _ _ => message

/-- The first source line that the item is about. -/
def first : Item → Nat
  | box _ _ _ first _ => first
  | warning _ line => line
  | fatal _ line _ => line

/-- The last source line that the item is about. -/
def last : Item → Nat
  | box _ _ _ _ last => last
  | warning _ line => line
  | fatal _ line _ => line

/-- The severity and the text of the item, and its lines in the file at `path`, from the first
column of the first to the end of the last. -/
def summary (path : Path) (it : Item) : Severity × Text × Location :=
  (it.severity, it.excerpt,
    { file := path.name
      path := path
      span := ⟨⟨it.first - 1, 0⟩, ⟨it.last - 1, restOfLine⟩⟩ })

end Item

theorem sourceRow_of_pos {n : Nat} (h : 1 ≤ n) : sourceRow n = n - 1 := by
  unfold sourceRow
  omega

theorem not_mem_numeral {c : Char} (hc : isDigit c = false) (n : Nat) : c ∉ numeral n := fun h =>
  absurd (isDigit_of_mem_numeral h) (by simp [hc])

theorem Span.lines_none (row : Int) : Span.lines row none = ⟨⟨row, 0⟩, ⟨row, restOfLine⟩⟩ := by
  simp [Span.lines]

theorem Span.lines_some {first last : Int} (h : first ≤ last) :
    Span.lines first (some last) = ⟨⟨first, 0⟩, ⟨last, restOfLine⟩⟩ := by
  simp only [Span.lines, Option.getD_some, Int.max_eq_right h]

/-- A line that is a message with nothing behind it is one segment. -/
theorem segments_singleton (x : Context) (row : Nat) {line : Text} {h : Heading}
    (hline : Heading.ofLine? line = some h) :
    segments x row [line] = [.message row (claim x row line [] h)] := by
  rw [segments_cons_message x row [] hline, List.drop_nil]
  rfl

/-! ## Boxes -/

section Box

variable {word : Text} {direction : Char} {measure : Text} {first last : Nat}

theorem firstAfter?_boxStarts (hw : word ∈ ["Overfull".toList, "Underfull".toList])
    (hd : direction ∈ ['h', 'v', 'd']) (rest : Text) :
    Heading.firstAfter? Heading.boxStarts
        (word ++ " \\".toList ++ direction :: "box (".toList ++ rest) =
      some (word ++ " \\".toList ++ direction :: "box (".toList, rest) := by
  simp only [List.mem_cons, List.not_mem_nil, or_false] at hw hd
  rcases hw with rfl | rfl <;> rcases hd with rfl | rfl | rfl <;> rfl

theorem boxLines?_numeral (hf : first ≤ 999999999) (hl : last ≤ 999999999) :
    Heading.boxLines? (" at lines ".toList ++ (numeral first ++ ("--".toList ++ numeral last))) =
      some (first, some last) := by
  have hlast : Heading.wholeNumber? (numeral last) = some (last, []) := by
    have hnil : startsWord [] = false := rfl
    rw [← Heading.wholeNumber?_numeral hl hnil, List.append_nil]
  have hfirst : Heading.wholeNumber? (numeral first ++ ("--".toList ++ numeral last)) =
      some (first, "--".toList ++ numeral last) := Heading.wholeNumber?_numeral hf rfl
  have hstart (rest : Text) : Heading.firstAfter? [" at lines ".toList, " at line ".toList]
      (" at lines ".toList ++ rest) = some (" at lines ".toList, rest) := rfl
  simp only [Heading.boxLines?, hstart, Option.bind_eq_bind, Option.bind_some, hfirst,
    after?_append, hlast, Option.map_some]
  rfl

/-- The first closing bracket ends the measure, and a paragraph is the first place that is tried. -/
theorem box?_boxLine (hw : word ∈ ["Overfull".toList, "Underfull".toList])
    (hd : direction ∈ ['h', 'v', 'd']) (hm : ')' ∉ measure) (hf : first ≤ 999999999)
    (hl : last ≤ 999999999) :
    Heading.box? (boxLine word direction measure first last) =
      some (.box (boxHead word direction measure) first (some last)) := by
  have hline : boxLine word direction measure first last =
      word ++ " \\".toList ++ direction :: "box (".toList ++ (measure ++ ')' ::
        (" in paragraph".toList ++ (" at lines ".toList ++ (numeral first ++ ("--".toList ++
          numeral last))))) := by
    simp [boxLine, boxHead]
  have hmeasure : ∀ c ∈ measure, decide (c ≠ ')') := fun c hc =>
    decide_eq_true fun heq => hm (heq ▸ hc)
  have hclose (rest : Text) : ∀ c ∈ (')' :: rest).head?, decide (c ≠ ')') = false := by
    rintro _ ⟨⟩
    rfl
  have hplace : Heading.boxPlaces.findSome? (fun p =>
      (after? p (" in paragraph".toList ++ (" at lines ".toList ++ (numeral first ++ ("--".toList ++
        numeral last))))).bind Heading.boxLines?) = some (first, some last) := by
    rw [Heading.boxPlaces, List.findSome?_cons, after?_append, Option.bind_some,
      boxLines?_numeral hf hl]
  have hparen (rest : Text) : after? [')'] (')' :: rest) = some rest := rfl
  rw [hline]
  simp only [Heading.box?, firstAfter?_boxStarts hw hd, Option.bind_eq_bind, Option.bind_some,
    takeWhile_append_of_head? hmeasure (hclose _), dropWhile_append_of_head? hmeasure (hclose _),
    hparen, hplace]
  rfl

/-- The mark behind a file name holds a colon and no brackets, so the line of a box has none. -/
theorem fileLine?_boxLine (hw : word ∈ ["Overfull".toList, "Underfull".toList])
    (hd : direction ∈ ['h', 'v', 'd']) (hm : ¬ ".tex:".toList <:+: measure) :
    Heading.fileLine? (boxLine word direction measure first last) = none := by
  have hline : boxLine word direction measure first last =
      (word ++ " \\".toList ++ direction :: "box ".toList) ++ '(' :: (measure ++ ')' ::
        (" in paragraph at lines ".toList ++ (numeral first ++ ("--".toList ++
          numeral last)))) := by
    simp [boxLine, boxHead]
  have hfront : ':' ∉ word ++ " \\".toList ++ direction :: "box ".toList := by
    simp only [List.mem_cons, List.not_mem_nil, or_false] at hw hd
    rcases hw with rfl | rfl <;> rcases hd with rfl | rfl | rfl <;> decide
  have hback : ':' ∉ " in paragraph at lines ".toList ++ (numeral first ++ ("--".toList ++
      numeral last)) := by
    have hdigit : isDigit ':' = false := by decide
    simp only [List.mem_append, not_mem_numeral hdigit, false_or, or_false]
    decide
  rw [hline]
  exact Heading.fileLine?_eq_none (not_isInfix_of_parts (by decide) (by decide)
    (not_isInfix_of_mem (by decide) hfront) hm (not_isInfix_of_mem (by decide) hback))

theorem ofLine?_boxLine (hw : word ∈ ["Overfull".toList, "Underfull".toList])
    (hd : direction ∈ ['h', 'v', 'd']) (hm : ')' ∉ measure)
    (htex : ¬ ".tex:".toList <:+: measure) (hf : first ≤ 999999999) (hl : last ≤ 999999999) :
    Heading.ofLine? (boxLine word direction measure first last) =
      some (.box (boxHead word direction measure) first (some last)) := by
  have hothers : Heading.output? (boxLine word direction measure first last) = none ∧
      Heading.fatal? (boxLine word direction measure first last) = none := by
    simp only [List.mem_cons, List.not_mem_nil, or_false] at hw
    rcases hw with rfl | rfl <;> exact ⟨rfl, rfl⟩
  simp only [Heading.ofLine?, Heading.kinds, List.findSome?_cons, hothers,
    fileLine?_boxLine hw hd htex, box?_boxLine hw hd hm hf hl]

/-- The line of a box ends with a digit. -/
theorem dropReturn_boxLine :
    dropReturn (boxLine word direction measure first last) =
      boxLine word direction measure first last := by
  refine dropReturn_of_getLast? fun hlast => ?_
  rw [boxLine, List.getLast?_append_of_ne_nil _ (numeral_ne_nil last)] at hlast
  exact not_mem_numeral (by decide) last (List.mem_of_mem_getLast? hlast)

/-- The line of a box is read as a message about its lines. -/
theorem segments_boxLine (x : Context) (row : Nat)
    (h : (Item.box word direction measure first last).WellFormed) :
    ∃ c d, segments x row [dropReturn (boxLine word direction measure first last)] =
        [.message row c] ∧ c.diagnostic = some d ∧
      d.summary = (Item.box word direction measure first last).summary x.files.current := by
  obtain ⟨hw, hd, hm, -, htex, hpos, hle, hmax⟩ := h
  have hline := ofLine?_boxLine hw hd hm htex (Nat.le_trans hle hmax) hmax
  rw [dropReturn_boxLine, segments_singleton x row hline]
  refine ⟨_, _, rfl, rfl, ?_⟩
  have hspan : Span.lines (sourceRow first) (some (sourceRow last)) =
      ⟨⟨first - 1, 0⟩, ⟨last - 1, restOfLine⟩⟩ := by
    rw [sourceRow_of_pos hpos, sourceRow_of_pos (Nat.le_trans hpos hle)]
    exact Span.lines_some (by omega)
  simp only [Diagnostic.summary, Option.map_some, Context.here, hspan]
  rfl

end Box

/-! ## Warnings -/

section Warning

variable {message : Text} {line : Nat}

theorem warningWords_eq (message : Text) (line : Nat) :
    warningWords message line =
      message ++ ' ' :: ("on input line".toList ++ ' ' :: (numeral line ++ ['.'])) := by
  simp [warningWords]

/-- No name can be read in front of the volume. The name would be the volume word with its colon,
and a volume would have to follow. -/
theorem namedNotice?_warning (hfeed : '\n' ∉ message) (hw : ¬ "Warning:".toList <+: message)
    (hi : ¬ "Info:".toList <+: message) :
    Heading.namedNotice? (" Warning: ".toList ++ warningWords message line) = none := by
  have hline : '\n' ∉ " Warning: ".toList ++ warningWords message line := by
    rw [warningWords, List.mem_append, List.mem_append, List.mem_append, List.mem_append]
    simp only [not_mem_numeral (show isDigit '\n' = false by decide), hfeed, false_or, or_false]
    decide
  refine Option.eq_none_iff_forall_ne_some.mpr fun ⟨name, volume, rest⟩ hsome => ?_
  obtain ⟨hname, rest, heq, -⟩ := (Heading.namedNotice?_eq_some_iff hline).mp hsome
  have hwarning : IsToken "Warning:".toList := by decide
  have hcut : "Warning:".toList ++ ' ' :: warningWords message line =
      name ++ ' ' :: (volume.label ++ ':' :: rest) := by
    simpa using heq
  obtain ⟨-, hvolume⟩ := IsToken.append_space_inj hwarning hname hcut
  have hspace : ' ' ∉ volume.label ++ [':'] := by cases volume <;> decide
  have hstart : volume.label ++ [':'] <+: message := by
    rw [warningWords_eq] at hvolume
    exact isPrefix_of_append_cons hspace ⟨rest, by rw [hvolume, List.append_assoc]; rfl⟩
  cases volume with
  | warning => exact hw hstart
  | info => exact hi hstart

theorem isPhrase_warningWords (h : IsPhrase message) (hne : message ≠ []) (line : Nat) :
    IsPhrase (warningWords message line) := by
  have hnumber : IsPhrase (numeral line ++ ['.']) := by
    refine isPhrase_iff_exists_words.mpr ⟨[numeral line ++ ['.']], ?_, rfl⟩
    rintro _ (_ | ⟨_, ⟨⟩⟩)
    refine ⟨by simp, fun c hc => ?_⟩
    rcases List.mem_append.mp hc with hc | hc
    · exact isBlank_of_isDigit (isDigit_of_mem_numeral hc)
    · obtain rfl := List.mem_singleton.mp hc
      decide
  have hmark : IsPhrase "on input line".toList := by decide
  rw [warningWords_eq]
  exact h.append_space hne (hmark.append_space (by decide) hnumber (by simp)) (by simp)

/-- The mark behind a file name holds a period and no spaces, so the line of a warning has none. -/
theorem fileLine?_warning (htex : ¬ ".tex:".toList <:+: message) :
    Heading.fileLine? ("LaTeX Warning: ".toList ++ warningWords message line) = none := by
  have hline : "LaTeX Warning: ".toList ++ warningWords message line =
      "LaTeX Warning:".toList ++ ' ' ::
        (message ++ ' ' :: ("on input line".toList ++ ' ' :: (numeral line ++ ['.']))) := by
    rw [warningWords_eq]
    rfl
  have hfront : '.' ∉ "LaTeX Warning:".toList := by decide
  have hback : ':' ∉ "on input line".toList ++ ' ' :: (numeral line ++ ['.']) := by
    have hdigit : isDigit ':' = false := by decide
    simp only [List.mem_append, List.mem_cons, not_mem_numeral hdigit, false_or]
    decide
  rw [hline]
  exact Heading.fileLine?_eq_none (not_isInfix_of_parts (by decide) (by decide)
    (not_isInfix_of_mem (by decide) hfront) htex (not_isInfix_of_mem (by decide) hback))

theorem not_mem_lineFeed_warning (hphrase : IsPhrase message) (hne : message ≠ []) :
    '\n' ∉ "LaTeX Warning: ".toList ++ warningWords message line := by
  rw [List.mem_append, not_or]
  exact ⟨by decide, (isPhrase_warningWords hphrase hne line).spaced.not_mem_lineFeed⟩

theorem ofLine?_warning (hphrase : IsPhrase message) (hne : message ≠ [])
    (htex : ¬ ".tex:".toList <:+: message) (hw : ¬ "Warning:".toList <+: message)
    (hi : ¬ "Info:".toList <+: message) :
    Heading.ofLine? ("LaTeX Warning: ".toList ++ warningWords message line) =
      some (.notice .latex none .warning (warningWords message line)) := by
  have hothers (rest : Text) : Heading.output? ("LaTeX Warning: ".toList ++ rest) = none ∧
      Heading.fatal? ("LaTeX Warning: ".toList ++ rest) = none ∧
      Heading.box? ("LaTeX Warning: ".toList ++ rest) = none := ⟨rfl, rfl, rfl⟩
  have hstart := (isPhrase_warningWords hphrase hne line).spaced.startsBlank
  have hnotice : Heading.notice? ("LaTeX Warning: ".toList ++ warningWords message line) =
      some (.notice .latex none .warning (warningWords message line)) := by
    refine (Heading.notice?_eq_some_iff (not_mem_lineFeed_warning hphrase hne)).mpr
      ⟨by simp, ' ' :: warningWords message line, rfl, ?_, fun _ => ?_⟩
    · exact (dropWhile_append_of_head? (List.forall_mem_singleton.mpr (by decide))
        (startsBlank_eq_false_iff.mp hstart)).symm
    · exact namedNotice?_warning hphrase.spaced.not_mem_lineFeed hw hi
  simp only [Heading.ofLine?, Heading.kinds, List.findSome?_cons, hothers,
    fileLine?_warning htex, hnotice]

/-- The words of the warning end in its input line. -/
theorem endsInInputLine_warningWords (message : Text) (line : Nat) :
    EndsInInputLine (warningWords message line) (message ++ [' ']) (numeral line) where
  ne_nil := numeral_ne_nil line
  digit _ := isDigit_of_mem_numeral
  eq_append := by
    refine ⟨['.'], by simp, ?_⟩
    rw [warningWords_eq, List.append_assoc]
    rfl

/-- The space behind a message without the words of an input line begins none. -/
theorem not_holdsInputLine_append_space (h : ¬ "on input line".toList <:+: message) :
    ¬ HoldsInputLine (message ++ [' ']) := by
  rintro ⟨c, hc, hmark⟩
  rcases List.infix_concat_iff.mp hmark with hmark | hmark
  · obtain ⟨u, hu⟩ := hmark
    rw [← List.append_assoc] at hu
    obtain ⟨-, hspace⟩ := List.append_inj' hu rfl
    obtain rfl := (List.cons.inj hspace).1
    exact absurd hc (by decide)
  · have hwords : "on input line".toList <:+: inputLineMark ++ [c] := ⟨[], [' ', c], rfl⟩
    exact h (hwords.trans hmark)

theorem inputLine?_warningWords (h : ¬ "on input line".toList <:+: message)
    (hn : line ≤ 999999999) : inputLine? (warningWords message line) = some line := by
  obtain ⟨stop, hstop, heq⟩ := (endsInInputLine_warningWords message line).eq_append
  have hfirst := firstInputLine_append (not_holdsInputLine_append_space h)
    (Heading.isLineNumber_numeral hn) (startsWord_of_mem_stops hstop)
  rw [heq]
  exact inputLine?_eq_some_iff.mpr ⟨_, _, hfirst, number_numeral line⟩

theorem dropInputLine_warningWords (h : Spaced message) :
    dropInputLine (warningWords message line) = message := by
  rw [dropInputLine_of_endsIn (endsInInputLine_warningWords message line)]
  exact dropEnd_append_of_getLast? h.getLast? (List.forall_mem_singleton.mpr (by decide))

theorem dropReturn_warning :
    dropReturn ("LaTeX Warning: ".toList ++ warningWords message line) =
      "LaTeX Warning: ".toList ++ warningWords message line := by
  refine dropReturn_of_getLast? ?_
  rw [warningWords, ← List.append_assoc, List.getLast?_append_of_ne_nil _ (by decide)]
  decide

/-- The line of a warning is read as a message about its input line. -/
theorem segments_warning (x : Context) (row : Nat) (h : (Item.warning message line).WellFormed) :
    ∃ c d, segments x row [dropReturn ("LaTeX Warning: ".toList ++ warningWords message line)] =
        [.message row c] ∧ c.diagnostic = some d ∧
      d.summary = (Item.warning message line).summary x.files.current := by
  obtain ⟨hphrase, hne, htex, hw, hi, hon, hperiod, hpos, hmax⟩ := h
  rw [dropReturn_warning, segments_singleton x row (ofLine?_warning hphrase hne htex hw hi)]
  refine ⟨_, _, rfl, rfl, ?_⟩
  have hwords : squeeze (warningWords message line) = warningWords message line :=
    isPhrase_warningWords hphrase hne line
  have hexcerpt : noticeExcerpt .latex none (warningWords message line) = message := by
    rw [noticeExcerpt, dropInputLine_warningWords hphrase.spaced, dropPeriod, if_neg hperiod]
    rfl
  simp only [Diagnostic.summary, hwords, hexcerpt, inputLine?_warningWords hon hmax,
    Option.getD_some, Context.here, Span.lines_none, sourceRow_of_pos hpos]
  rfl

end Warning

/-! ## Errors -/

section Fatal

variable {message source : Text} {line : Nat}

theorem isHelpText_eq_false (h : ∀ start ∈ helpMarks, ¬ start <+: message) :
    isHelpText message = false := by
  refine List.any_eq_false.mpr fun start hstart hbegins => h start hstart ?_
  obtain ⟨rest, hrest⟩ := Option.isSome_iff_exists.mp hbegins
  exact ⟨rest, (after?_eq_some_iff.mp hrest).symm⟩

/-- A message without the mark of an error names no origin. -/
theorem originOf?_eq_none (h : ¬ " Error: ".toList <:+: message) : originOf? message = none := by
  cases message with
  | nil => rfl
  | cons c t =>
    cases hbreak : breakOn? errorMark t with
    | none => simp [originOf?, hbreak]
    | some parts =>
      have hmark : " Error: ".toList <:+: c :: t := by
        rw [eq_of_breakOn? hbreak]
        exact ⟨c :: parts.1, parts.2, rfl⟩
      exact absurd hmark h

theorem message?_eq_some (hne : message ≠ []) (hfeed : '\n' ∉ message) :
    message? message = some message := by
  simp [message?, Heading.dropFeed_of_not_mem hfeed, hfeed, hne]

/-- A text without the mark of an error is its own message. -/
theorem errorText?_of_not_isInfix (hne : message ≠ []) (hfeed : '\n' ∉ message)
    (horigin : ¬ " Error: ".toList <:+: message) : errorText? message = some (none, message) := by
  rw [errorText?, message?_eq_some hne hfeed, Option.map_some, originOf?_eq_none horigin]

theorem fatal?_message (hphrase : IsPhrase message) (hne : message ≠ [])
    (horigin : ¬ " Error: ".toList <:+: message) :
    Heading.fatal? ("! ".toList ++ message) = some (.fatal none message) := by
  have htext := errorText?_of_not_isInfix hne hphrase.spaced.not_mem_lineFeed horigin
  simp only [Heading.fatal?, after?_append, Option.bind_eq_bind, Option.bind_some, htext]
  rfl

theorem dropReturn_fatal (hphrase : IsPhrase message) (hne : message ≠ []) :
    dropReturn ("! ".toList ++ message) = "! ".toList ++ message := by
  refine dropReturn_of_getLast? fun hlast => ?_
  rw [List.getLast?_append_of_ne_nil _ hne] at hlast
  exact absurd (hphrase.spaced.getLast? _ hlast) (by decide)

theorem contextLine?_contextLine (hn : line ≤ 999999999) (source : Text) :
    contextLine? (contextLine line source) = some line := by
  have hnumber : shortNumber? (numeral line ++ ' ' :: source) = some (line, ' ' :: source) := by
    refine shortNumber?_numeral hn ?_
    rintro _ ⟨⟩
    decide
  rw [contextLine, List.append_assoc]
  simp only [contextLine?, after?_append, Option.bind_eq_bind, Option.bind_some, hnumber]
  rfl

theorem errorTail_contextLine (hn : line ≤ 999999999) (source : Text) :
    errorTail false [contextLine line source] =
      .context line (contextLine line source) [] := by
  have hblank : isBlankLine (contextLine line source) = false := rfl
  simp only [errorTail, errorTailFrom, Bool.false_and, hblank,
    contextLine?_contextLine hn source]
  rfl

/-- The lines of an error are read as a message about the line of its source. The context line right
behind the heading ends the message. -/
theorem segments_fatal (x : Context) (row : Nat)
    (h : (Item.fatal message line source).WellFormed) :
    ∃ c d, segments x row [dropReturn ("! ".toList ++ message),
        dropReturn (contextLine line source)] = [.message row c] ∧ c.diagnostic = some d ∧
      d.summary = (Item.fatal message line source).summary x.files.current := by
  obtain ⟨hphrase, hne, hhelp, horigin, -, hpos, hmax⟩ := h
  have hcontext : dropReturn (contextLine line source) = contextLine line (dropReturn source) :=
    dropReturn_append_cons (by decide)
  have hline := ofLine?_of_fatal (fatal?_message hphrase hne horigin)
  rw [dropReturn_fatal hphrase hne, hcontext, segments_cons_message x row _ hline,
    claim_fatal _ _ _ _ _ (isHelpText_eq_false hhelp)]
  have htail := errorTail_contextLine hmax (dropReturn source)
  have htaken : (errorTail false [contextLine line (dropReturn source)]).taken = 1 := by
    rw [htail]
    rfl
  refine ⟨errorClaim row ("! ".toList ++ message) [contextLine line (dropReturn source)] false none
    message fun n => x.here (.lines (sourceRow (n.getD 0)) none), _, ?_, rfl, ?_⟩
  · simp only [errorClaim, htaken]
    rfl
  · have hexcerpt : errorExcerpt none message [] = message := hphrase
    have hparts : (ErrorTail.context line (contextLine line (dropReturn source)) []).parts = [] :=
      rfl
    have hnumber : (ErrorTail.context line (contextLine line (dropReturn source)) []).line =
        some line := rfl
    simp only [Diagnostic.summary, htail, hparts, hexcerpt, hnumber, Option.getD_some,
      Context.here, Span.lines_none, sourceRow_of_pos hpos]
    rfl

end Fatal

/-! ## The lines of an item -/

theorem Item.not_mem_lineFeed {it : Item} (h : it.WellFormed) : ∀ line ∈ it.lines, '\n' ∉ line := by
  have hdigit : isDigit '\n' = false := by decide
  cases it with
  | box word direction measure first last =>
    obtain ⟨hw, hd, -, hfeed, -⟩ := h
    rintro _ (_ | ⟨_, ⟨⟩⟩)
    have hword : '\n' ∉ word := by
      simp only [List.mem_cons, List.not_mem_nil, or_false] at hw
      rcases hw with rfl | rfl <;> decide
    have hdirection : '\n' ≠ direction := by
      rintro rfl
      exact absurd hd (by decide)
    simp only [boxLine, boxHead, List.mem_append, List.mem_cons, hword, hdirection, hfeed,
      not_mem_numeral hdigit, false_or, or_false]
    decide
  | warning message line =>
    obtain ⟨hphrase, hne, -⟩ := h
    rintro _ (_ | ⟨_, ⟨⟩⟩)
    exact not_mem_lineFeed_warning hphrase hne
  | fatal message line source =>
    obtain ⟨hphrase, -, -, -, hfeed, -⟩ := h
    rintro _ (_ | ⟨_, _ | ⟨_, ⟨⟩⟩⟩)
    · rw [List.mem_append, not_or]
      exact ⟨by decide, hphrase.spaced.not_mem_lineFeed⟩
    · simp only [contextLine, List.mem_append, List.mem_cons, not_mem_numeral hdigit, hfeed,
        or_false]
      decide

/-- The lines of an item are read as one message, and its diagnostic says what the item says. -/
theorem Item.segments_lines (x : Context) (row : Nat) {it : Item} (h : it.WellFormed) :
    ∃ c d, segments x row (it.lines.map dropReturn) = [.message row c] ∧ c.diagnostic = some d ∧
      d.summary = it.summary x.files.current := by
  cases it with
  | box => exact segments_boxLine x row h
  | warning => exact segments_warning x row h
  | fatal => exact segments_fatal x row h

end Log

end Typeset
