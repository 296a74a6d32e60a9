import Typeset.Text.Utf8.Fault
import Typeset.Yaml.Scalar.Quoted

/-!
# Labels and directives

What is written before a node: its anchor, the alias that stands for another node, its tag; and the
directives before a document. A tag has a handle that stands for a beginning, and a suffix in which
`%` begins an escaped byte.

## Main definitions

* `Yaml.Label.name`: the name of an anchor or an alias
* `Yaml.Label.tag`: a tag
* `Yaml.Directive`, `Yaml.Directive.read`: a directive
-/

namespace Typeset.Yaml

/-- A directive before a document. -/
inductive Directive where
  /-- The version of the format. -/
  | version (major : Nat)
  /-- What a handle stands for. -/
  | handle (name start : Text)
  /-- A directive without effect. -/
  | other
  deriving DecidableEq, Repr

/-- A label or directive under way: its kind and where it begins. -/
structure Labelling where
  kind : String
  start : Mark

namespace Labelling

/-- The complaint about something that is not what it should be. -/
def broken (l : Labelling) (finding : String) (s : Source) : Problem :=
  .during .tokens ("while scanning a " ++ l.kind) l.start finding s.mark

/-- The complaint about a missing part: what was expected, and the character in its place. -/
def misses (l : Labelling) (expected : String) (s : Source) : Problem :=
  l.broken ("expected " ++ expected ++ ", but found " ++ quotedNext s.peek) s

/-- The complaint about a part that is missing in a whole label. -/
def lacks (l : Labelling) (expected : String) (s : Source) : Problem :=
  .during .tokens ("while parsing a " ++ l.kind) l.start
    ("expected " ++ expected ++ ", but found " ++ quotedNext s.peek) s.mark

end Labelling

namespace Label

/-- Whether a character may stand in a name. -/
def isNameChar (c : Char) : Bool := c.isAlphanum || c = '-' || c = '_'

/-- A name behind the mark of an anchor or an alias. -/
def name (kind : String) (s : Source) : Except Problem (Text × Source) :=
  let start := s.mark
  let (n, s) := s.next.takeWhile isNameChar
  let closing := ['?', ':', ',', ']', '}', '%', '@', '\x60']
  if n.isEmpty || !s.holdsOrEnds 0 fun c => isGap c || c ∈ closing then
    .error
      (.during .tokens ("while scanning an " ++ kind) start
        ("expected alphabetic or numeric character, but found " ++ quotedNext s.peek) s.mark)
  else .ok (n, s)

/-- Whether a character may stand in a suffix. -/
def isSuffixChar (c : Char) : Bool :=
  c.isAlphanum || c ∈ "-;/?:@&=+$,_.!~*'()[]%".toList

/-- The bytes of the escapes that come next. -/
def bytesWithin (l : Labelling) : (fuel : Nat) → Source → Except Problem (List UInt8 × Source)
  | 0, s => .ok ([], s)
  | fuel + 1, s =>
    if s.peek = some '%' then
      match Quoted.hexNumber 2 s.rest.tail with
      | .error c =>
        .error
          (l.broken
            ("expected URI escape sequence of 2 hexdecimal numbers, but found " ++ quotedNext c)
            s.next)
      | .ok n => do
        let (bs, s) ← bytesWithin l fuel (s.advance 3)
        return (n.toUInt8 :: bs, s)
    else .ok ([], s)

/-- The complaint about escaped bytes that hold no text. -/
def undecodable (l : Labelling) (bytes : List UInt8) (s : Source) : Problem :=
  let fault := Text.Utf8.faultText bytes
  .malformed
    { rule := .tokens
      activity := some ("while scanning a " ++ l.kind)
      since := some l.start
      finding := fault
      place := s.mark
      cause := some ("UnicodeDecodeError", fault) }

/-- The suffix of a tag, with its escapes carried out. -/
def suffixWithin (l : Labelling) : (fuel : Nat) → Source → Except Problem (Text × Source)
  | 0, s => .ok ([], s)
  | fuel + 1, s =>
    match s.peek with
    | none => .ok ([], s)
    | some c =>
      if c = '%' then do
        let (bytes, r) ← bytesWithin l (s.rest.length + 1) s
        match Text.Utf8.decode? bytes with
        | none => throw (undecodable l bytes s)
        | some t =>
          let (rest, r) ← suffixWithin l fuel r
          return (t ++ rest, r)
      else if isSuffixChar c then do
        let (r, s) ← suffixWithin l fuel s.next
        return (c :: r, s)
      else .ok ([], s)

/-- A suffix that is not empty. -/
def suffix (l : Labelling) (s : Source) : Except Problem (Text × Source) := do
  let (t, r) ← suffixWithin l (s.rest.length + 1) s
  if r.index = s.index then throw (l.lacks "URI" s) else return (t, r)

/-- A handle: one exclamation mark, or a name between two of them. -/
def handle (l : Labelling) (s : Source) : Except Problem (Text × Source) :=
  if s.peek ≠ some '!' then .error (l.misses "'!'" s)
  else if s.peekAt 1 = some ' ' then .ok (['!'], s.next)
  else
    let (n, r) := s.next.takeWhile isNameChar
    if r.peek = some '!' then .ok ('!' :: n ++ ['!'], r.next) else .error (l.misses "'!'" r)

/-- Whether another exclamation mark stands in the word that comes next. -/
def hasHandle (s : Source) : Bool :=
  '!' ∈ s.rest.tail.takeWhile fun c => !(c = ' ' || isBreak c)

/-- A tag: a handle and a suffix. Without a handle the suffix is the whole tag. -/
def tag (s : Source) : Except Problem ((Option Text × Text) × Source) := do
  let l : Labelling := ⟨"tag", s.mark⟩
  let (t, s) ←
    if s.peekAt 1 = some '<' then do
      let (t, s) ← suffix l (s.advance 2)
      if s.peek = some '>' then pure ((none, t), s.next) else throw (l.lacks "'>'" s)
    else if s.gapAt 1 then pure ((none, ['!']), s.next)
    else do
      let (h, s) ← if hasHandle s then handle l s else pure (['!'], s.next)
      let (t, s) ← suffix l s
      pure ((some h, t), s)
  if s.atWordEnd then return (t, s) else throw (l.misses "' '" s)

end Label

namespace Directive

/-- The most digits that a number may have. -/
def mostDigits : Nat := 4300

/-- A number in decimal digits. -/
def number (l : Labelling) (s : Source) : Except Problem (Nat × Source) :=
  let (digits, r) := s.takeWhile Char.isDigit
  if digits.isEmpty then .error (l.misses "a digit" s)
  else if mostDigits < digits.length then .error (.misfit .value)
  else .ok (Text.number digits, r)

/-- The version of the format. -/
def readVersion (l : Labelling) (s : Source) : Except Problem (Directive × Source) := do
  let (major, s) ← number l s.skipSpaces
  if s.peek ≠ some '.' then throw (l.misses "a digit or '.'" s)
  let (_, s) ← number l s.next
  if s.atWordEnd then return (.version major, s) else throw (l.misses "a digit or ' '" s)

/-- What a handle stands for. -/
def readHandle (l : Labelling) (s : Source) : Except Problem (Directive × Source) := do
  let (h, s) ← Label.handle l s.skipSpaces
  if s.peek ≠ some ' ' then throw (l.misses "' '" s)
  let (t, s) ← Label.suffix l s.skipSpaces
  if s.atWordEnd then return (.handle h t, s) else throw (l.misses "' '" s)

/-- A directive with its line, from the percent sign on. -/
def read (s : Source) : Except Problem (Directive × Source) := do
  let l : Labelling := ⟨"directive", s.mark⟩
  let (n, s) := s.next.takeWhile Label.isNameChar
  if n.isEmpty || !s.atWordEnd then throw (l.misses "alphabetic or numeric character" s)
  let (d, s) ←
    if n = "YAML".toList then readVersion l s
    else if n = "TAG".toList then readHandle l s
    else pure (.other, s.skipWhile fun c => !isBreak c)
  let s := s.skipSpaces.skipComment
  if s.atLineEnd then return (d, s.lineBreak.2)
  else throw (l.misses "a comment or a line break" s)

end Directive

end Typeset.Yaml
