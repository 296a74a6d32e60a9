import Typeset.Yaml.Label
import Typeset.Yaml.Scalar.Block
import Typeset.Yaml.Scalar.Plain

/-!
# Tokens

A document as a list of tokens with their places. Indentation becomes tokens of its own: one where a
block begins and one where it ends. A key is only known when the colon behind it is found, so the
places where keys may begin are remembered, and the token for a key is put in there afterwards.

A token is only settled once no key can be put in before it any more. Where a text cannot be read to
its end, the tokens that are settled before the last step are followed by a fault.

## Main definitions

* `Yaml.Token`, `Yaml.Lexeme`: the tokens, and tokens with their places
* `Yaml.Lexer`: the tokens so far, the blocks that are open and the keys that may have begun
* `Yaml.Lexer.step`: one more token
* `Yaml.tokens`: the tokens of a text; a text that cannot be read to its end leads to a fault
-/

namespace Typeset.Yaml

/-- The tokens of a document. -/
inductive Token where
  | directive (d : Directive)
  | documentStart
  | documentEnd
  | streamEnd
  | blockSequenceStart
  | blockMappingStart
  | blockEnd
  | flowSequenceStart
  | flowSequenceEnd
  | flowMappingStart
  | flowMappingEnd
  | flowEntry
  | blockEntry
  | key
  | value
  | reuse (name : Text)
  | anchor (name : Text)
  | tag (handle : Option Text) (suffix : Text)
  | scalar (content : Content) (plain : Bool)
  /-- The text cannot be read any further. -/
  | fault (p : Problem)
  deriving DecidableEq, Repr

/-- The name of a token in a complaint. -/
def Token.label : Token → String
  | directive _ => "<directive>"
  | documentStart => "<document start>"
  | documentEnd => "<document end>"
  | streamEnd => "<stream end>"
  | blockSequenceStart => "<block sequence start>"
  | blockMappingStart => "<block mapping start>"
  | blockEnd => "<block end>"
  | flowSequenceStart => "["
  | flowSequenceEnd => "]"
  | flowMappingStart => "\x7b"
  | flowMappingEnd => "\x7d"
  | flowEntry => ","
  | blockEntry => "-"
  | key => "?"
  | value => ":"
  | reuse _ => "<alias>"
  | anchor _ => "<anchor>"
  | tag _ _ => "<tag>"
  | scalar _ _ => "<scalar>"
  | fault _ => "<fault>"

/-- A token with the place where it begins. -/
structure Lexeme where
  token : Token
  mark : Mark
  deriving DecidableEq, Repr

/-- A place where a key may have begun: the number of tokens before it, and where it is. A key that
stands where its block needs one is required. -/
structure KeyPlace where
  token : Nat
  required : Bool
  mark : Mark
  deriving Repr

/-- A reading under way. -/
structure Lexer where
  source : Source
  tokens : List Lexeme := []
  /-- The number of flow collections that are open. -/
  flow : Nat := 0
  /-- The column of the innermost block; `-1` outside of all blocks. -/
  indent : Int := -1
  /-- The columns of the blocks around it. -/
  outer : List Int := []
  /-- Whether a key may begin here. -/
  keyAllowed : Bool := true
  /-- The places where a key may have begun, by the number of open flow collections. -/
  keys : List (Nat × KeyPlace) := []
  deriving Repr

namespace Lexer

/-- The complaint about a key without its colon. -/
def brokenKey (l : Lexer) (k : KeyPlace) : Problem :=
  .during .tokens "while scanning a simple key" k.mark "could not find expected ':'" l.source.mark

/-- The complaint about something that is not allowed where it stands. -/
def misplaced (l : Lexer) (what : String) : Problem :=
  .found .tokens (what ++ " are not allowed here") l.source.mark

/-- The number of tokens that are settled: no key can begin before them. -/
def settled (l : Lexer) : Nat := l.keys.foldl (fun n (_, k) => min n k.token) l.tokens.length

/-- Whether the reading is inside a flow collection. -/
def inFlow (l : Lexer) : Bool := l.flow ≠ 0

/-- The reading with one more token, which begins here. -/
def emit (l : Lexer) (t : Token) : Lexer := { l with tokens := l.tokens ++ [⟨t, l.source.mark⟩] }

/-- The reading with a token put in where a key begins. -/
def emitAt (l : Lexer) (k : KeyPlace) (t : Token) : Lexer :=
  { l with tokens := l.tokens.take k.token ++ ⟨t, k.mark⟩ :: l.tokens.drop k.token }

/-- The reading at another place. -/
def goTo (l : Lexer) (s : Source) : Lexer := { l with source := s }

/-- The reading behind its next `n` characters. -/
def skip (l : Lexer) (n : Nat) : Lexer := l.goTo (l.source.advance n)

/-- The reading behind the blank lines and comments that come next. Behind a line break in a block
a key may begin. -/
def skipGapWithin : (fuel : Nat) → Lexer → Lexer
  | 0, l => l
  | fuel + 1, l =>
    let s := l.source.skipSpaces.skipComment
    if s.sees isBreak then
      skipGapWithin fuel { l with source := s.lineBreak.2, keyAllowed := l.keyAllowed || !l.inFlow }
    else l.goTo s

/-- The reading at its next token. -/
def skipGap (l : Lexer) : Lexer :=
  let s := l.source
  let s := if s.index = 0 && s.peek = some byteOrderMark then s.next else s
  skipGapWithin (s.rest.length + 1) (l.goTo s)

/-- The reading without the keys that can no longer be keys: a key is on one line and not longer
than 1024 characters. -/
def dropStaleKeys (l : Lexer) : Except Problem Lexer :=
  let isStale (k : KeyPlace) : Bool :=
    k.mark.line ≠ l.source.line || l.source.index - k.mark.index > 1024
  match l.keys.find? fun (_, k) => isStale k && k.required with
  | some (_, k) => .error (l.brokenKey k)
  | none => .ok { l with keys := l.keys.filter fun (_, k) => !isStale k }

/-- The reading without the key that may have begun in the innermost collection. -/
def dropKey (l : Lexer) : Except Problem Lexer :=
  match l.keys.lookup l.flow with
  | some k =>
    if k.required then .error (l.brokenKey k)
    else .ok { l with keys := l.keys.filter (·.1 ≠ l.flow) }
  | none => .ok l

/-- The reading where a key may begin, if one is allowed here. -/
def markKey (l : Lexer) : Except Problem Lexer :=
  if l.keyAllowed then do
    let k : KeyPlace :=
      { token := l.tokens.length
        required := !l.inFlow && l.indent = l.source.column
        mark := l.source.mark }
    let l ← l.dropKey
    return { l with keys := (l.flow, k) :: l.keys }
  else .ok l

/-- The reading with the blocks closed that are indented more deeply than `column`. -/
def closeBlocks (column : Int) (l : Lexer) : Lexer :=
  if l.inFlow then l
  else
    let rec close : (indent : Int) → (outer : List Int) → List Lexeme → Lexer
      | indent, [], ts => { l with indent := indent, outer := [], tokens := ts }
      | indent, o :: outer, ts =>
        if indent > column then close o outer (ts ++ [⟨.blockEnd, l.source.mark⟩])
        else { l with indent := indent, outer := o :: outer, tokens := ts }
    close l.indent l.outer l.tokens

/-- The reading with a block opened at `column`, and whether it is a new one. -/
def openBlock (column : Nat) (l : Lexer) : Lexer × Bool :=
  if l.indent < column then ({ l with indent := column, outer := l.indent :: l.outer }, true)
  else (l, false)

/-- The reading with a block opened here, announced by `start`, if it is a new one. -/
def openHere (start : Token) (l : Lexer) : Lexer :=
  match l.openBlock l.source.column with
  | (l, true) => l.emit start
  | (l, false) => l

/-- A mark or directive between documents: all blocks end before it. -/
def between (l : Lexer) : Except Problem Lexer := do
  let l ← (l.closeBlocks (-1)).dropKey
  return { l with keyAllowed := false }

/-- A mark between documents. -/
def separator (t : Token) (l : Lexer) : Except Problem Lexer := do
  return ((← l.between).emit t).skip 3

/-- The beginning of a flow collection; it may be a key itself. -/
def openFlow (t : Token) (l : Lexer) : Except Problem Lexer := do
  let l ← l.markKey
  return ({ l with flow := l.flow + 1, keyAllowed := true }.emit t).skip 1

/-- The end of a flow collection. -/
def closeFlow (t : Token) (l : Lexer) : Except Problem Lexer := do
  let l ← l.dropKey
  return ({ l with flow := l.flow - 1, keyAllowed := false }.emit t).skip 1

/-- The comma between entries of a flow collection. -/
def flowEntry (l : Lexer) : Except Problem Lexer := do
  let l ← l.dropKey
  return ({ l with keyAllowed := true }.emit .flowEntry).skip 1

/-- The dash before an entry of a block sequence. -/
def blockEntry (l : Lexer) : Except Problem Lexer := do
  if !l.inFlow && !l.keyAllowed then throw (l.misplaced "sequence entries")
  let l := if l.inFlow then l else l.openHere .blockSequenceStart
  let l ← l.dropKey
  return ({ l with keyAllowed := true }.emit .blockEntry).skip 1

/-- The question mark before a key. -/
def explicitKey (l : Lexer) : Except Problem Lexer := do
  if !l.inFlow && !l.keyAllowed then throw (l.misplaced "mapping keys")
  let l := if l.inFlow then l else l.openHere .blockMappingStart
  let l ← l.dropKey
  return ({ l with keyAllowed := !l.inFlow }.emit .key).skip 1

/-- The colon before a value. If a key may have begun before it, it was one. Its tokens are there
already, so its mark goes in front of them. Otherwise the key is missing or was marked by a question
mark. -/
def mappingValue (l : Lexer) : Except Problem Lexer := do
  match l.keys.lookup l.flow with
  | some k =>
    let l := { l with keys := l.keys.filter (·.1 ≠ l.flow), keyAllowed := false }
    let l := l.emitAt k .key
    let (l, isNew) := if l.inFlow then (l, false) else l.openBlock k.mark.column
    let l := if isNew then l.emitAt k .blockMappingStart else l
    return (l.emit .value).skip 1
  | none =>
    if !l.inFlow && !l.keyAllowed then throw (l.misplaced "mapping values")
    let l := if l.inFlow then l else l.openHere .blockMappingStart
    let l ← { l with keyAllowed := !l.inFlow }.dropKey
    return (l.emit .value).skip 1

/-- Something that may be a key: a label, a quoted scalar or a plain scalar. -/
def mayBeKey (l : Lexer) (read : Source → Except Problem (Token × Source)) :
    Except Problem Lexer := do
  let l ← l.markKey
  let (t, s) ← read l.source
  return ({ l with keyAllowed := false }.emit t).goTo s

/-- A block scalar. It is no key, but one may come after it. -/
def blockScalar (l : Lexer) : Except Problem Lexer := do
  let l ← { l with keyAllowed := true }.dropKey
  let (t, s) ← Block.read l.indent l.source
  return (l.emit (.scalar (.text t) false)).goTo s

/-- A plain scalar. Behind a line break that it crossed last, a key may begin. -/
def plainScalar (l : Lexer) : Except Problem Lexer := do
  let l ← l.markKey
  let g := Plain.read l.inFlow (l.indent + 1).toNat l.source
  return ({ l with keyAllowed := g.crossed }.emit (.scalar (.text g.text) true)).goTo g.source

/-- Whether a character has its own meaning here, and not that of a plain scalar: in a block a gap
has to follow it. -/
def isMark (l : Lexer) : Bool := l.inFlow || l.source.gapAt 1

/-- The end of the text. -/
def finish (l : Lexer) : Except Problem Lexer := do
  return (← (l.closeBlocks (-1)).dropKey).emit .streamEnd

/-- The token that begins with the character `c`. -/
def readToken (c : Char) (l : Lexer) : Except Problem Lexer :=
  let s := l.source
  if c = '%' && s.column = 0 then do
    let l ← l.between
    let (d, s) ← Directive.read l.source
    return (l.emit (.directive d)).goTo s
  else if s.column = 0 && s.seesMark Source.startMark then l.separator .documentStart
  else if s.column = 0 && s.seesMark Source.endMark then l.separator .documentEnd
  else if c = '[' then l.openFlow .flowSequenceStart
  else if c = '{' then l.openFlow .flowMappingStart
  else if c = ']' then l.closeFlow .flowSequenceEnd
  else if c = '}' then l.closeFlow .flowMappingEnd
  else if c = ',' then l.flowEntry
  else if c = '-' && s.gapAt 1 then l.blockEntry
  else if c = '?' && l.isMark then l.explicitKey
  else if c = ':' && l.isMark then l.mappingValue
  else if c = '*' then
    l.mayBeKey fun s => (Label.name "alias" s).map fun (n, s) => (.reuse n, s)
  else if c = '&' then
    l.mayBeKey fun s => (Label.name "anchor" s).map fun (n, s) => (.anchor n, s)
  else if c = '!' then
    l.mayBeKey fun s => (Label.tag s).map fun ((h, t), s) => (.tag h t, s)
  else if (c = '|' || c = '>') && !l.inFlow then l.blockScalar
  else if c = '\'' || c = '"' then
    l.mayBeKey fun s => (Quoted.read s).map fun (t, s) => (.scalar t false, s)
  else if Plain.canStart l.inFlow c (s.peekAt 1) then l.plainScalar
  else
    .error
      (.malformed
        { rule := .tokens
          activity := some "while scanning for the next token"
          finding := "found character " ++ quoted [c] ++ " that cannot start any token"
          place := s.mark })

/-- The reading with its next token, and whether the text goes on. A key that cannot be one any more
is dropped as soon as the token is read. -/
def step (l : Lexer) : Except Problem (Lexer × Bool) := do
  let l ← l.skipGap.dropStaleKeys
  let l := l.closeBlocks l.source.column
  match l.source.peek with
  | none => return (← l.finish, false)
  | some c => return (← (← l.readToken c).dropStaleKeys, true)

/-- The tokens of the rest of the text. Every token takes at least one character, so their number
bounds the number of steps. -/
def runWithin : (fuel : Nat) → Lexer → List Lexeme
  | 0, l => l.tokens
  | fuel + 1, l =>
    match l.step with
    | .error p => l.tokens.take l.settled ++ [⟨.fault p, l.source.mark⟩]
    | .ok (l, true) => runWithin fuel l
    | .ok (l, false) => l.tokens

end Lexer

/-- Whether a character may stand in a document. -/
def isAllowed (c : Char) : Bool :=
  let n := c.toNat
  n = 9 || n = 10 || n = 13 || (0x20 ≤ n && n ≤ 0x7E) || n = 0x85 || (0xA0 ≤ n && n ≤ 0xD7FF)
    || (0xE000 ≤ n && n ≤ 0xFFFD) || 0x10000 ≤ n

/-- The complaint about a character that may not stand in a document. -/
def forbidden (c : Char) (index : Nat) : Problem :=
  .found .characters
    ("unacceptable character #x" ++ Text.str (Text.hex 4 c.toNat)
      ++ ": special characters are not allowed")
    { index := index }

/-- The tokens of a text, up to the end of the text or to a fault. -/
def tokens (t : Text) : List Lexeme :=
  match t.findIdx? fun c => !isAllowed c with
  | some i => [⟨.fault (forbidden (t.getD i ' ') i), {}⟩]
  | none => Lexer.runWithin (t.length + 2) { source := { rest := t } }

end Typeset.Yaml
