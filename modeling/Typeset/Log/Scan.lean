import Typeset.Log.Continuation
import Typeset.Log.FileStack

/-!
# The scan of a log

A log is cut into segments: a line that begins a message together with the lines that belong to
it, or a single line that begins none and may open and close files. Each message becomes at most
one diagnostic; a message that names no file is about the innermost file open at that place.

## Main definitions

* `Log.Context`: the document and the open files
* `Log.Claim`, `Log.claim`: what a message yields, and how many lines it takes
* `Log.Segment`, `Log.segments`: the log cut into segments
* `Log.dropRepeats`: a list without items whose key is that of the item before them

## Main results

* `Log.claim_taken_le`: a message takes no more lines than there are
* `Log.dropRepeats_sublist`: dropping repeats keeps the order
-/

namespace Typeset.Log

open Text

/-- What a message is read against: the document and the files open before it. -/
structure Context where
  root : Path
  files : FileStack
  deriving DecidableEq, Repr

namespace Context

/-- The path of a file named in a message, seen from the directory of the document. -/
def resolve (x : Context) (name : Text) : Path := x.root.parent.resolve (.ofText name)

/-- Source lines of the innermost open file. -/
def here (x : Context) (span : Span) : Location := .ofPath x.files.current span

end Context

/-! ## Excerpts -/

/-- The source row that a line number means. -/
def sourceRow (line : Nat) : Int := ((line - 1 : Nat) : Int)

/-- The text of an error; the name of the system itself is left out. -/
def errorExcerpt (origin : Option Text) (message : Text) (parts : List Text) : Text :=
  let first :=
    match origin with
    | some o => if o = "LaTeX".toList then message else o ++ errorMark ++ message
    | none => message
  squeeze (joinWith [' '] (first :: parts))

/-- The words in front of the input line of a notice. -/
def inputLineMark : Text := "on input line ".toList

/-- The input line that a text names first. -/
def inputLine? : Text → Option Nat
  | [] => none
  | c :: t =>
    match (after? inputLineMark (c :: t)).bind Heading.wholeNumber? with
    | some (n, _) => some n
    | none => inputLine? t

/-- The text without one period at its end. -/
def dropPeriod (t : Text) : Text := if t.getLast? = some '.' then t.dropLast else t

/-- The text without an input line at its end and the blanks before that; a period may follow
the number. -/
def dropInputLine (t : Text) : Text :=
  let front := dropPeriod t
  if (takeEnd isDigit front).isEmpty then t
  else
    match after? inputLineMark.reverse (dropEnd isDigit front).reverse with
    | some before => trimRight before.reverse
    | none => t

/-- Who speaks in a notice, in front of its text; the system itself is left out. -/
def noticeLabel (source : Source) (name : Option Text) : Text :=
  match name with
  | some n => source.label ++ ' ' :: n ++ ": ".toList
  | none => if source = .latex then [] else source.label ++ ": ".toList

/-- The text of a notice whose words are `text`. -/
def noticeExcerpt (source : Source) (name : Option Text) (text : Text) : Text :=
  noticeLabel source name ++ dropPeriod (dropInputLine text)

/-! ## Messages -/

/-- What a message yields: a diagnostic, the output file, or nothing, and the number of lines
behind its heading that belong to it. -/
structure Claim where
  diagnostic : Option Diagnostic := none
  output : Option Path := none
  taken : Nat := 0
  deriving DecidableEq, Repr

/-- The part of the log from the beginning of `row` to the end of the last of `taken` more
lines. -/
def logSpan (row taken : Nat) (line : Text) (rest : List Text) : Span where
  start := ⟨row, 0⟩
  stop := ⟨(row + taken : Nat), (((line :: rest)[taken]?).getD []).length⟩

/-- The claim of an error at `row`, whose source lines depend on its tail. -/
def errorClaim (row : Nat) (line : Text) (rest : List Text) (indentedOnly : Bool)
    (origin : Option Text) (message : Text) (locate : Option Nat → Location) : Claim :=
  let tail := errorTail indentedOnly rest
  { diagnostic := some
      { severity := .error
        excerpt := errorExcerpt origin message tail.parts
        location := locate tail.line
        description := tail.snippet
        logRange := some (logSpan row tail.taken line rest) }
    taken := tail.taken }

/-- The severity of a notice. -/
def Volume.severity : Volume → Severity
  | .warning => .warning
  | .info => .info

/-- The claim of the message that the heading of `line` at `row` begins. -/
def claim (x : Context) (row : Nat) (line : Text) (rest : List Text) : Heading → Claim
  | .output path => { output := some (x.resolve (path.filter (· ≠ '"'))) }
  | .fatal origin message =>
    if isHelpText message then {}
    else
      errorClaim row line rest false origin message fun n =>
        x.here (.lines (sourceRow (n.getD 0)) none)
  | .fileLine path n origin message =>
    if isHelpText message then {}
    else
      errorClaim row line rest true origin message fun _ =>
        .ofPath (x.resolve path) (.lines (sourceRow n) none)
  | .box head first last =>
    { diagnostic := some
        { severity := .info
          excerpt := head
          location := x.here (.lines (sourceRow first) (last.map sourceRow))
          logRange := some (logSpan row 0 line rest) } }
  | .notice source name volume message =>
    let (text, taken) := noticeTail name message rest
    let text := squeeze text
    { diagnostic := some
        { severity := volume.severity
          excerpt := noticeExcerpt source name text
          location := x.here (.lines (sourceRow ((inputLine? text).getD 0)) none)
          logRange := some (logSpan row taken line rest) }
      taken := taken }

theorem claim_taken_le (x : Context) (row : Nat) (line : Text) (rest : List Text) (h : Heading) :
    (claim x row line rest h).taken ≤ rest.length := by
  cases h with
  | output => simp [claim]
  | fatal origin message =>
    simp only [claim]
    split
    · simp
    · exact errorTail_taken_le false rest
  | fileLine path n origin message =>
    simp only [claim]
    split
    · simp
    · exact errorTail_taken_le true rest
  | box => simp [claim]
  | notice source name volume message => exact noticeTail_snd_le name message rest

/-! ## Segments -/

/-- A piece of the log: the row of its first line, and what that line begins. -/
inductive Segment where
  /-- A line that begins no message. -/
  | plain (row : Nat) (line : Text)
  /-- A message. -/
  | message (row : Nat) (claim : Claim)
  deriving DecidableEq, Repr

namespace Segment

/-- The row of the first line. -/
def row : Segment → Nat
  | plain row _ => row
  | message row _ => row

/-- The number of lines. -/
def size : Segment → Nat
  | plain _ _ => 1
  | message _ c => c.taken + 1

/-- The diagnostic that the segment yields. -/
def diagnostic? : Segment → Option Diagnostic
  | plain _ _ => none
  | message _ c => c.diagnostic

/-- The output file that the segment announces. -/
def output? : Segment → Option Path
  | plain _ _ => none
  | message _ c => c.output

/-- The open files after the segment. -/
def files (s : FileStack) : Segment → FileStack
  | plain _ line => s.track line
  | message _ _ => s

variable (i : Nat) (line : Text) (c : Claim)

@[simp] theorem row_plain : (plain i line).row = i := rfl

@[simp] theorem row_message : (message i c).row = i := rfl

@[simp] theorem size_plain : (plain i line).size = 1 := rfl

@[simp] theorem size_message : (message i c).size = c.taken + 1 := rfl

theorem size_pos (s : Segment) : 0 < s.size := by cases s <;> simp

end Segment

/-- The segments of the lines from `row` on, of which the first `skip` belong to a message before
them. -/
def segmentsFrom (x : Context) : (row skip : Nat) → List Text → List Segment
  | _, _, [] => []
  | row, skip + 1, _ :: rest => segmentsFrom x (row + 1) skip rest
  | row, 0, line :: rest =>
    match Heading.ofLine? line with
    | some h =>
      let c := claim x row line rest h
      .message row c :: segmentsFrom x (row + 1) c.taken rest
    | none =>
      .plain row line :: segmentsFrom { x with files := x.files.track line } (row + 1) 0 rest

/-- The segments of the lines from `row` on. -/
def segments (x : Context) (row : Nat) (lines : List Text) : List Segment :=
  segmentsFrom x row 0 lines

/-! ## Repeats -/

/-- The list without the items whose key is that of the item kept before them; `last` is the key
of the item before the list. -/
def dropRepeats [DecidableEq κ] (key : α → κ) : (last : Option κ) → List α → List α
  | _, [] => []
  | last, a :: as =>
    if last = some (key a) then dropRepeats key last as
    else a :: dropRepeats key (some (key a)) as

theorem dropRepeats_sublist [DecidableEq κ] (key : α → κ) (last : Option κ) (as : List α) :
    (dropRepeats key last as).Sublist as := by
  induction as generalizing last with
  | nil => exact .refl _
  | cons a as ih =>
    unfold dropRepeats
    split
    · exact (ih last).cons a
    · exact (ih _).cons_cons a

theorem dropRepeats_append [DecidableEq κ] (key : α → κ) (last : Option κ) (as bs : List α) :
    dropRepeats key last (as ++ bs) = dropRepeats key last as ++
      dropRepeats key (((dropRepeats key last as).getLast?.map key).or last) bs := by
  induction as generalizing last with
  | nil => rfl
  | cons a as ih =>
    rw [List.cons_append, dropRepeats, dropRepeats]
    split
    · exact ih last
    · rw [ih, List.cons_append, List.getLast?_cons]
      cases (dropRepeats key (some (key a)) as).getLast? <;> rfl

theorem dropRepeats_map {β : Type} [DecidableEq κ] {f : α → β} {key : β → κ} {key' : α → κ}
    (h : ∀ a, key (f a) = key' a) (last : Option κ) (as : List α) :
    dropRepeats key last (as.map f) = (dropRepeats key' last as).map f := by
  induction as generalizing last with
  | nil => rfl
  | cons a as ih =>
    rw [List.map_cons, dropRepeats, dropRepeats, h, ih, ih]
    split <;> rfl

/-- What a repeated diagnostic repeats: the file, the first source row and the text. -/
def repeatKey (d : Diagnostic) : Path × Int × Text := (d.location.path, d.startRow, d.excerpt)

end Typeset.Log
