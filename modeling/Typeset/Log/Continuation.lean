import Typeset.Log.Heading

/-!
# Continuation lines

The lines that belong to the message of a heading. Behind an error come the rest of its text, the
markers of source snippets with the indented line that goes on with each, and at last the context
line `l.N` with the source around the error. Behind a notice come lines that are indented far, that
repeat the package in brackets, or that hold the rest of a number which was cut at the line's end.

## Main definitions

* `Log.errorTail`: the lines behind an error
* `Log.joinWrappedNumber?`, `Log.extendNotice?`, `Log.noticeTail`: the lines behind a notice

## Main results

* `Log.errorTail_taken_le`, `Log.noticeTail_snd_le`: no more lines are taken than there are
-/

namespace Typeset.Log

open Text

/-! ## Errors -/

/-- The line number of a context line `l.N`. -/
def contextLine? (line : Text) : Option Nat := do
  let rest ← after? "l.".toList line
  let (n, rest) ← shortNumber? rest
  if rest.isEmpty || startsBlank rest then return n else none

/-- Whether a backslash, a character that is no blank and, on the same line, an arrow follow. -/
def isExpansion : Text → Bool
  | '\\' :: c :: t => !isBlank c && occursIn "->".toList (t.takeWhile (· ≠ '\n'))
  | _ => false

/-- Whether the line is the marker of a source snippet: behind its indentation stands a tag, an
ellipsis, or a macro with its expansion. -/
def isSnippetMarker (line : Text) : Bool :=
  let t := trimLeft line
  (match t with
    | '<' :: r => '>' ∈ r
    | _ => false)
  || beginsWith "...".toList t || isExpansion t

/-- What the lines behind an error hold: fragments of its text, and from the context line its
number and the source around it. -/
structure ErrorTail where
  parts : List Text := []
  line : Option Nat := none
  snippet : Option Text := none
  taken : Nat := 0
  deriving DecidableEq, Repr

namespace ErrorTail

/-- The tail behind a line that adds nothing to the text. -/
def skip (t : ErrorTail) : ErrorTail := { t with taken := t.taken + 1 }

/-- The tail behind a line that is a fragment of the text. -/
def cons (part : Text) (t : ErrorTail) : ErrorTail :=
  { t with parts := part :: t.parts, taken := t.taken + 1 }

/-- The tail that a context line begins: the line and, if it is indented, the line after it. -/
def context (n : Nat) (line : Text) (rest : List Text) : ErrorTail :=
  let lines := line :: (rest.take 1).filter startsBlank
  { line := some n
    snippet := some (joinWith ['\n'] ((lines.filter (!isBlankLine ·)).map trimRight))
    taken := lines.length }

end ErrorTail

/-- The tail of an error. A snippet marker makes an indented line after it part of the snippet. The
tail ends behind a context line, together with the rest of its source line, and in front of a blank
line, a heading and, if `indentedOnly`, a line that is neither indented nor a marker. -/
def errorTailFrom (indentedOnly : Bool) : (inSnippet : Bool) → List Text → ErrorTail
  | _, [] => {}
  | inSnippet, line :: rest =>
    if inSnippet && startsBlank line then (errorTailFrom indentedOnly false rest).skip
    else if isBlankLine line then {}
    else
      match contextLine? line with
      | some n => .context n line rest
      | none =>
        if isHeading line then {}
        else if isSnippetMarker line then (errorTailFrom indentedOnly true rest).skip
        else if indentedOnly && !startsBlank line then {}
        else (errorTailFrom indentedOnly false rest).cons (trim line)

/-- The tail of an error whose heading the lines follow. -/
def errorTail (indentedOnly : Bool) (lines : List Text) : ErrorTail :=
  errorTailFrom indentedOnly false lines

theorem ErrorTail.taken_context_le (n : Nat) (line : Text) (rest : List Text) :
    (ErrorTail.context n line rest).taken ≤ rest.length + 1 := by
  have h1 := List.length_filter_le startsBlank (rest.take 1)
  have h2 : (rest.take 1).length ≤ rest.length := List.length_take_le' 1 rest
  simp only [ErrorTail.context, List.length_cons]
  omega

theorem errorTailFrom_taken_le (indentedOnly inSnippet : Bool) (lines : List Text) :
    (errorTailFrom indentedOnly inSnippet lines).taken ≤ lines.length := by
  induction lines generalizing inSnippet with
  | nil => simp [errorTailFrom]
  | cons line rest ih =>
    unfold errorTailFrom
    split
    · simpa [ErrorTail.skip] using ih false
    · split
      · simp
      · split
        · simpa using ErrorTail.taken_context_le _ line rest
        · split
          · simp
          · split
            · simpa [ErrorTail.skip] using ih true
            · split
              · simp
              · simpa [ErrorTail.cons] using ih false

theorem errorTail_taken_le (indentedOnly : Bool) (lines : List Text) :
    (errorTail indentedOnly lines).taken ≤ lines.length :=
  errorTailFrom_taken_le indentedOnly false lines

/-! ## Notices -/

/-- How a text ends that a number may continue. -/
inductive LineEnding where
  /-- With the word `line`. -/
  | word
  /-- With the word `line`, a space and digits. -/
  | number
  deriving DecidableEq, Repr

/-- Whether the text ends with the whole word `line`. -/
def endsWithLine (t : Text) : Bool :=
  match after? "enil".toList t.reverse with
  | some before => !startsWord before
  | none => false

/-- How the text ends, if a number may continue it. Without digits behind it, the word stands at the
end itself. -/
def lineEnding? (t : Text) : Option LineEnding :=
  if endsWithLine t then some .word
  else if (takeEnd isDigit t).isEmpty then none
  else
    match after? [' '] (dropEnd isDigit t).reverse with
    | some before => if endsWithLine before.reverse then some .number else none
    | none => none

/-- The digits that a line begins with, and the rest of the line. -/
def leadingDigits? (line : Text) : Option (Text × Text) :=
  let digits := line.takeWhile isDigit
  let rest := dropFeed (line.dropWhile isDigit)
  if digits.isEmpty || '\n' ∈ rest then none else some (digits, rest)

/-- The text continued by a line that begins with digits, if the text ends with the word `line`
or with that word and digits. -/
def joinWrappedNumber? (text line : Text) : Option Text := do
  let text := trimRight text
  let ending ← lineEnding? text
  let (digits, rest) ← leadingDigits? line
  let joined :=
    match ending with
    | .word => text ++ ' ' :: digits
    | .number => text ++ digits
  if startsBlank rest then return joined ++ ' ' :: trim rest
  else return joined ++ trimRight rest

/-- From this indentation on a line continues the notice before it. -/
def continuationIndent : Nat := 15

/-- What follows the bracketed package name at the beginning of a line, with the blank behind
it. An empty name marks nothing. -/
def afterPackage? (package line : Text) : Option Text := do
  let rest ← after? ('(' :: package ++ [')']) line
  if startsBlank rest && !package.isEmpty then return rest else none

/-- The text of a notice continued by a line, if the line belongs to it. -/
def extendNotice? (package : Option Text) (text line : Text) : Option Text :=
  if isBlankLine line then none
  else if continuationIndent ≤ indentation line then some (text ++ ' ' :: trim line)
  else
    match package.bind (afterPackage? · line) with
    | some rest => some (text ++ ' ' :: trim rest)
    | none => joinWrappedNumber? text line

/-- The text of a notice continued by the lines that belong to it, and their number. -/
def noticeTail (package : Option Text) : (text : Text) → List Text → Text × Nat
  | text, [] => (text, 0)
  | text, line :: rest =>
    match extendNotice? package text line with
    | some longer =>
      let (whole, n) := noticeTail package longer rest
      (whole, n + 1)
    | none => (text, 0)

theorem noticeTail_snd_le (package : Option Text) (text : Text) (lines : List Text) :
    (noticeTail package text lines).2 ≤ lines.length := by
  induction lines generalizing text with
  | nil => simp [noticeTail]
  | cons line rest ih =>
    unfold noticeTail
    split
    · simpa using ih _
    · simp

end Typeset.Log
