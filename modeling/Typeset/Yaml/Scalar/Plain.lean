import Typeset.Yaml.Source

/-!
# Plain scalars

Scalars without quotes. Inside a flow collection they end at its punctuation; in a block they end at
a line that is not indented deeply enough. A colon ends them if a gap follows it, a `#` if a gap
comes before it. Line breaks are folded as in quoted scalars.

## Main definitions

* `Yaml.Plain.word`: the characters up to the next gap or the end of the scalar
* `Yaml.Plain.read`: a plain scalar and the source behind it
-/

namespace Typeset.Yaml.Plain

/-- The punctuation of flow collections. -/
def isPunctuation (c : Char) : Bool := c ∈ [',', '[', ']', '{', '}']

/-- Whether a colon with the given character behind it ends a plain scalar. -/
def endsBefore (flow : Bool) (behind : Option Char) : Bool :=
  behind.all fun c => isGap c || (flow && isPunctuation c)

/-- The characters of a plain scalar at the beginning of a text, up to the next gap. -/
def word (flow : Bool) : Text → Text
  | [] => []
  | c :: r =>
    if isGap c || (c = ':' && endsBefore flow r.head?) || (flow && (isPunctuation c || c = '?'))
    then []
    else c :: word flow r

/-- The line breaks that come next, with the spaces between them; nothing if a mark between
documents comes after one of them. -/
def breaksWithin : (fuel : Nat) → Source → Option Text × Source
  | 0, s => (some [], s)
  | fuel + 1, s =>
    let s := s.skipSpaces
    if s.sees isBreak then
      let (b, s) := s.lineBreak
      if s.seesSeparator then (none, s)
      else
        let (bs, s) := breaksWithin fuel s
        (bs.map (b ++ ·), s)
    else (some [], s)

/-- A gap between two words of a scalar: what it stands for, whether it holds a line break, and the
source behind it. An empty gap ends the scalar. -/
structure Gap where
  text : Text
  crossed : Bool
  source : Source

/-- The gap that comes next. -/
def gap (s : Source) : Gap :=
  let (spaces, s) := s.takeWhile (· = ' ')
  if s.sees isBreak then
    let (b, s) := s.lineBreak
    if s.seesSeparator then ⟨[], true, s⟩
    else
      match breaksWithin (s.rest.length + 1) s with
      | (none, s) => ⟨[], true, s⟩
      | (some bs, s) =>
        ⟨(if b ≠ ['\n'] then b else if bs.isEmpty then [' '] else []) ++ bs, true, s⟩
  else ⟨spaces, false, s⟩

/-- The words of a scalar behind a gap. The result tells whether a line break was crossed last. The
gap belongs to the scalar only if another word follows it. -/
def wordsWithin (flow : Bool) (indent : Nat) : (fuel : Nat) → Gap → Gap
  | 0, g => ⟨[], g.crossed, g.source⟩
  | fuel + 1, g =>
    let s := g.source
    let w := word flow s.rest
    if s.peek = some '#' || w.isEmpty then ⟨[], g.crossed, s⟩
    else
      let h := gap (s.advance w.length)
      if h.text.isEmpty || h.source.peek = some '#' || (!flow && h.source.column < indent) then
        ⟨g.text ++ w, h.crossed, h.source⟩
      else
        let r := wordsWithin flow indent fuel h
        ⟨g.text ++ w ++ r.text, r.crossed, r.source⟩

/-- The plain scalar that comes next. In a block, its lines are indented by at least `indent`. -/
def read (flow : Bool) (indent : Nat) (s : Source) : Gap :=
  wordsWithin flow indent (s.rest.length + 1) ⟨[], false, s⟩

/-- Whether a character may begin a plain scalar, if `behind` is the character behind it. -/
def canStart (flow : Bool) (c : Char) (behind : Option Char) : Bool :=
  let reserved := ['-', '?', ':', ',', '[', ']', '{', '}', '#', '&', '*', '!', '|', '>', '\'', '"',
    '%', '@', '\x60']
  (!isGap c && c ∉ reserved)
    || (!behind.all isGap && (c = '-' || (!flow && (c = '?' || c = ':'))))

end Typeset.Yaml.Plain
