import Typeset.Text.Quoted

/-!
# What may be wrong with a document

A document is malformed if its characters, its tokens, its structure, its references or the values
in it break a rule. Apart from that, a value may be announced as a number, a truth value or a moment
and then not be one.

A broken rule is reported with the places that it is about, and with the lines at these places.

## Main definitions

* `Yaml.Mark`, `Yaml.Mark.shown`: a place in a document, and how it is shown
* `Yaml.Rule`, `Yaml.Breach`, `Yaml.Misfit`, `Yaml.Problem`
* `Yaml.Breach.text`: what is reported of a broken rule
-/

namespace Typeset.Yaml

/-! ## Places -/

/-- A place in a document: the number of characters before it, its line and its column. -/
structure Mark where
  index : Nat := 0
  line : Nat := 0
  column : Nat := 0
  deriving DecidableEq, Repr

namespace Mark

/-- The place one character further on in its line. -/
def next (m : Mark) : Mark := ⟨m.index + 1, m.line, m.column + 1⟩

/-- Whether two places are in the same column of the same line. -/
def meets (m n : Mark) : Bool := m.line = n.line && m.column = n.column

/-- Whether a character ends the line that is shown. -/
def endsLine (c : Char) : Bool :=
  c = '\x00' || c = '\r' || c = '\n' || c = '\x85' || c = '\u2028' || c = '\u2029'

/-- The sign that a line goes on beyond what is shown of it. -/
def dots : Text := " ... ".toList

/-- The characters of a line next to a place, nearest first, and whether there are too many of them
to be shown. -/
def beside (t : Text) : Text × Bool :=
  let run := (t.take 37).takeWhile fun c => !endsLine c
  if run.length < 37 then (run, false) else (run.take 32, true)

/-- The line of a place, with a sign below that points to it. -/
def snippet (document : Text) (m : Mark) : Text :=
  let indent := Text.ofString "    "
  let (before, cut) := beside (document.take m.index).reverse
  let head := (if cut then dots else []) ++ before.reverse
  let (after, cut) := beside (document.drop m.index)
  indent ++ head ++ after ++ (if cut then dots else []) ++ ['\n']
    ++ indent ++ List.replicate head.length ' ' ++ ['^']

/-- A place as it is shown. Lines and columns are counted from one. -/
def shown (document : Text) (m : Mark) : Text :=
  Text.ofString
    ("  in \"<unicode string>\", line " ++ toString (m.line + 1) ++ ", column "
      ++ toString (m.column + 1) ++ ":\n") ++ m.snippet document

end Mark

/-! ## Rules -/

/-- What a rule of the format is about. -/
inductive Rule where
  | characters
  | tokens
  | layout
  | references
  | values
  deriving DecidableEq, Repr

/-- The kind of failure that breaking a rule is. -/
def Rule.kind : Rule → String
  | characters => "ReaderError"
  | tokens => "ScannerError"
  | layout => "ParserError"
  | references => "ComposerError"
  | values => "ConstructorError"

/-- A broken rule. -/
structure Breach where
  rule : Rule
  /-- What was being done. -/
  activity : Option String := none
  /-- Where that began. -/
  since : Option Mark := none
  /-- What was found instead of what the rule demands. -/
  finding : String
  /-- Where it was found. -/
  place : Mark
  /-- The failure that showed it, by its kind and its words. -/
  cause : Option (String × String) := none
  deriving DecidableEq, Repr

namespace Breach

/-- What is reported of a character that may not stand in a document. -/
def characterText (b : Breach) : Text :=
  Text.ofString
    (b.finding ++ "\n  in \"<unicode string>\", position " ++ toString b.place.index)

/-- What is reported of a broken rule. The place where something began is left out if that is where
the rule was found broken. -/
def text (document : Text) (b : Breach) : Text :=
  if b.rule = .characters then b.characterText
  else
    let origin := b.since.filter fun m => !m.meets b.place
    Text.joinWith ['\n']
      ((b.activity.map Text.ofString).toList ++ (origin.map (Mark.shown document)).toList
        ++ [Text.ofString b.finding, b.place.shown document])

end Breach

/-! ## Problems -/

/-- A scalar that is not what it was announced to be, or that cannot be read for its size. -/
inductive Misfit where
  /-- A number, a date or a character that does not exist. -/
  | value
  /-- A word that is no truth value. -/
  | word
  /-- A number without a single character. -/
  | nothing
  /-- A moment that is not written like one. -/
  | moment
  /-- A moment that is not written as a scalar. -/
  | scalar
  /-- A number beyond those that can be computed with. -/
  | size
  /-- Nodes that lie too deep in one another. -/
  | depth
  deriving DecidableEq, Repr

/-- The kind of failure that a misfit is. -/
def Misfit.kind : Misfit → String
  | value => "ValueError"
  | word => "KeyError"
  | nothing => "IndexError"
  | moment => "AttributeError"
  | scalar => "TypeError"
  | size => "OverflowError"
  | depth => "RecursionError"

/-- What may be wrong with a document. -/
inductive Problem where
  | malformed (b : Breach)
  | misfit (m : Misfit)
  deriving DecidableEq, Repr

namespace Problem

/-- The problem of a rule that is found broken at a place. -/
def found (rule : Rule) (finding : String) (place : Mark) : Problem :=
  .malformed { rule := rule, finding := finding, place := place }

/-- The problem of a rule that is found broken while something is done that began earlier. -/
def during (rule : Rule) (activity : String) (since : Mark) (finding : String) (place : Mark) :
    Problem :=
  .malformed
    { rule := rule
      activity := some activity
      since := some since
      finding := finding
      place := place }

end Problem

/-- A text between quotes, as a report shows it. -/
def quoted (t : Text) : String := Text.str (Text.quote t)

/-- The next character between quotes, as a report shows it; the end of the document is shown as the
character with the number zero. -/
def quotedNext (c : Option Char) : String := quoted [c.getD '\x00']

end Typeset.Yaml
