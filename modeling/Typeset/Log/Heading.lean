import Typeset.Text.Blank
import Typeset.Text.Word

/-!
# Headings of a compilation log

Some lines of a log begin a message: the announcement of the output file, an error, a box that
does not fit, a notice of a package or a class. Such a line is a heading. This module reads the
headings; what their further lines add is the subject of `Typeset.Log.Continuation`.

A line holds no line feed except possibly one at its end, which a heading ignores.

## Main definitions

* `Log.Heading`: the five kinds of heading, with the parts that are read off the line
* `Log.Heading.kinds`, `Log.Heading.ofLine?`: the heading that a line is, by the first kind that
  fits
* `Log.Heading.forms`, `Log.isHeading`: the forms of the lines that begin a message, as the text of
  an error looks for them
* `Log.isHelpText`: the messages that only explain the error before them

## Main results

* `Log.isHeading_eq_false_iff`: a line is no heading if no kind fits
* `Log.isHeading_eq_isSome`: the lines that begin a message are those that are read as a heading
-/

namespace Typeset.Log

open Text

/-! ## Parts of lines -/

/-- The line without one line feed at its end. -/
def dropFeed (line : Text) : Text :=
  if line.getLast? = some '\n' then line.dropLast else line

/-- A message that runs to the end of the line: not empty, and on one line. -/
def message? (t : Text) : Option Text :=
  let m := dropFeed t
  if m.isEmpty || '\n' ∈ m then none else some m

/-- The mark between the origin of an error and its message. -/
def errorMark : Text := " Error: ".toList

/-- The first origin and message of an error text: a non-empty origin, the mark, and a non-empty
message. -/
def originOf? (t : Text) : Option (Text × Text) :=
  match t with
  | [] => none
  | c :: t =>
    match breakOn? errorMark t with
    | some (o, m) => if m.isEmpty then none else some (c :: o, m)
    | none => none

/-- The origin, if one is named, and the message of an error text that runs to the end of the
line. -/
def errorText? (t : Text) : Option (Option Text × Text) :=
  (message? t).map fun m =>
    match originOf? m with
    | some (origin, rest) => (some origin, rest)
    | none => (none, m)

/-- The messages that start like this explain the error before them. -/
def helpMarks : List Text :=
  ["The ".toList, "This ".toList, "You ".toList, "See ".toList, "Type ".toList,
    "That makes ".toList]

/-- Whether a message only explains the error before it. -/
def isHelpText (message : Text) : Bool := helpMarks.any (beginsWith · message)

/-! ## Headings -/

/-- Who speaks in a notice. -/
inductive Source where
  | package
  | documentClass
  | latex
  deriving DecidableEq, Repr

/-- How loud a notice is. -/
inductive Volume where
  | warning
  | info
  deriving DecidableEq, Repr

namespace Source

/-- The word for a source. -/
def label : Source → Text
  | package => "Package".toList
  | documentClass => "Class".toList
  | latex => "LaTeX".toList

end Source

namespace Volume

/-- The word for a volume. -/
def label : Volume → Text
  | warning => "Warning".toList
  | info => "Info".toList

end Volume

/-- A line that begins a message. -/
inductive Heading where
  /-- The announcement of the output file. -/
  | output (path : Text)
  /-- An error, with the part of the system that reports it. -/
  | fatal (origin : Option Text) (message : Text)
  /-- An error that names its file and line. -/
  | fileLine (path : Text) (line : Nat) (origin : Option Text) (message : Text)
  /-- A box that is too full or not full enough, with the lines it was set from. -/
  | box (head : Text) (first : Nat) (last : Option Nat)
  /-- A warning or a note. -/
  | notice (source : Source) (name : Option Text) (volume : Volume) (message : Text)
  deriving DecidableEq, Repr

namespace Heading

/-! ### Output -/

/-- Whether the text is `(...).` to the end of the line, behind its first bracket. -/
def isPageNote (t : Text) : Bool :=
  let t := dropFeed t
  !('\n' ∈ t) && endsWith ").".toList t

/-- The longest path that a blank and a page note follow. -/
def outputPath? : Text → Option Text
  | [] => none
  | c :: t =>
    let longer := if c = '\n' then none else (outputPath? t).map (c :: ·)
    match longer with
    | some p => some p
    | none =>
      match t with
      | '(' :: r => if isBlank c && isPageNote r then some [] else none
      | _ => none

/-- Reads `words`, each followed by one blank, and gives the rest. -/
def afterBlanked? : List Text → Text → Option Text
  | [], t => some t
  | w :: ws, t =>
    match after? w t with
    | some (c :: r) => if isBlank c then afterBlanked? ws r else none
    | _ => none

/-- `Output written on path (...).` -/
def output? (line : Text) : Option Heading := do
  let rest ← afterBlanked? ["Output".toList, "written".toList, "on".toList] line
  let path ← outputPath? rest
  return .output path

/-! ### Errors -/

/-- `! message` -/
def fatal? (line : Text) : Option Heading := do
  let rest ← after? "! ".toList line
  let (origin, message) ← errorText? rest
  return .fatal origin message

/-- The end of a source file's name in front of a line number. -/
def sourceMark : Text := ".tex:".toList

/-- A line number, a colon with a space, and an error text. -/
def numbered? (t : Text) : Option (Nat × Option Text × Text) := do
  let (line, rest) ← shortNumber? t
  let rest ← after? ": ".toList rest
  let (origin, message) ← errorText? rest
  return (line, origin, message)

/-- The longest text in front of a source mark that a numbered error follows, without the mark. A
path does not go beyond its line. -/
def sourceAndError? : Text → Option (Text × Nat × Option Text × Text)
  | [] => none
  | c :: t =>
    let longer :=
      if c = '\n' then none else (sourceAndError? t).map fun (p, e) => (c :: p, e)
    match longer with
    | some found => some found
    | none => do
      let rest ← after? sourceMark (c :: t)
      let e ← numbered? rest
      return ([], e)

/-- `path.tex:line: message` -/
def fileLine? (line : Text) : Option Heading := do
  let (base, row, origin, message) ← sourceAndError? line
  if base.isEmpty then none
  else return .fileLine (base ++ ".tex".toList) row origin message

/-! ### Boxes -/

/-- The two ways in which a box may not fit. -/
def boxWords : List Text := ["Overfull".toList, "Underfull".toList]

/-- The beginnings of box messages: a way, and the direction of the box. -/
def boxStarts : List Text :=
  boxWords.flatMap fun w => ['h', 'v', 'd'].map fun d => w ++ " \\".toList ++ [d] ++ "box (".toList

/-- What may stand between the measure of a box and its lines. -/
def boxPlaces : List Text :=
  [" in paragraph".toList, " in alignment".toList, " detected".toList, []]

/-- The first of several beginnings that the text has, and the rest. -/
def firstAfter? (starts : List Text) (t : Text) : Option (Text × Text) :=
  starts.findSome? fun s => (after? s t).map fun r => (s, r)

/-- A number of at most nine digits at which a word ends. -/
def wholeNumber? (t : Text) : Option (Nat × Text) := do
  let (n, rest) ← shortNumber? t
  if startsWord rest then none else return (n, rest)

/-- The lines of a box, from the word `at` on. -/
def boxLines? (t : Text) : Option (Nat × Option Nat) := do
  let (_, rest) ← firstAfter? [" at lines ".toList, " at line ".toList] t
  let (first, rest) ← wholeNumber? rest
  let last := (after? "--".toList rest).bind fun r => (wholeNumber? r).map Prod.fst
  return (first, last)

/-- `Overfull \hbox (measure) in paragraph at lines first--last` -/
def box? (line : Text) : Option Heading := do
  let (start, rest) ← firstAfter? boxStarts line
  let measure := rest.takeWhile (· ≠ ')')
  let rest ← after? [')'] (rest.dropWhile (· ≠ ')'))
  let (first, last) ← boxPlaces.findSome? fun p => (after? p rest).bind boxLines?
  return .box (start ++ measure ++ [')']) first last

/-! ### Notices -/

/-- The volume word, a colon and the message, behind the space before them. -/
def volumeAndMessage? (t : Text) : Option (Volume × Text) := do
  let rest ← after? [' '] t
  let (volume, rest) ←
    [Volume.warning, Volume.info].findSome? fun v =>
      (after? (v.label ++ [':']) rest).map fun r => (v, r)
  let message := dropFeed (trimLeft rest)
  if '\n' ∈ message then none else return (volume, message)

/-- The name of a package between spaces, then the volume and the message. -/
def namedNotice? (t : Text) : Option (Text × Volume × Text) := do
  let rest ← after? [' '] t
  let name := rest.takeWhile fun c => !isBlank c
  if name.isEmpty then none
  else
    let (volume, message) ← volumeAndMessage? (rest.dropWhile fun c => !isBlank c)
    return (name, volume, message)

/-- `Package name Warning: message`, where the name may be missing. A name is looked for first, so
that `LaTeX Font Warning` has the name `Font`. -/
def notice? (line : Text) : Option Heading := do
  let (source, rest) ←
    [Source.package, .documentClass, .latex].findSome? fun s =>
      (after? s.label line).map fun r => (s, r)
  match namedNotice? rest with
  | some (name, volume, message) => return .notice source (some name) volume message
  | none =>
    let (volume, message) ← volumeAndMessage? rest
    return .notice source none volume message

/-! ### All headings -/

/-- The kinds of heading, in the order in which they are tried. -/
def kinds : List (Text → Option Heading) := [output?, fatal?, fileLine?, box?, notice?]

/-- The heading that the line is, by the first kind that fits. -/
def ofLine? (line : Text) : Option Heading := kinds.findSome? fun kind => kind line

/-- The forms of lines at which the text of an error stops. -/
def forms : List (Text → Bool) :=
  [fun line => (output? line).isSome, fun line => (fatal? line).isSome,
    fun line => (fileLine? line).isSome, fun line => (box? line).isSome,
    fun line => (notice? line).isSome]

end Heading

/-- Whether the line has one of the forms, so that it begins a message. -/
def isHeading (line : Text) : Bool := Heading.forms.any fun form => form line

theorem isHeading_eq_isSome (line : Text) : isHeading line = (Heading.ofLine? line).isSome := by
  rw [Heading.ofLine?, List.isSome_findSome?]
  simp [isHeading, Heading.forms, Heading.kinds]

theorem ofLine?_eq_none_iff {line : Text} :
    Heading.ofLine? line = none ↔ isHeading line = false := by
  rw [isHeading_eq_isSome, Option.isSome_eq_false_iff, Option.isNone_iff_eq_none]

/-- The forms and the kinds are the same. -/
theorem isHeading_eq_false_iff {line : Text} :
    isHeading line = false ↔ ∀ kind ∈ Heading.kinds, kind line = none := by
  rw [← ofLine?_eq_none_iff, Heading.ofLine?, List.findSome?_eq_none_iff]

end Typeset.Log
