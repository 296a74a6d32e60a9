import Typeset.Yaml.Node
import Typeset.Yaml.Token

/-!
# Nodes from tokens

The tokens of a document put together to nodes. Every node has a tag, given or found from the way it
is written, and an alias is the node that it stands for. A stream of tokens holds at most one
document. Nodes that lie too deep in one another find no room, however well they are written.

## Main definitions

* `Yaml.Assembly`: the tokens still to come, what handles stand for, and the nodes so far
* `Yaml.Assembly.node`: the node that comes next
* `Yaml.Graph.ofTokens`: the document in a list of tokens
-/

namespace Typeset.Yaml

/-- Nodes under construction. -/
structure Assembly where
  tokens : List Lexeme
  /-- What the handles of tags stand for. -/
  handles : List (Text × Text) := []
  graph : Graph := #[]
  /-- The nodes with anchors. -/
  anchors : List (Text × Nat) := []

/-- What comes before a node: an anchor and a tag. -/
structure Properties where
  anchor : Option Text := none
  tag : Option (Option Text × Text) := none
  /-- Where the first of them begins. -/
  start : Option Mark := none
  /-- Where the tag begins. -/
  tagStart : Mark := {}

namespace Assembly

/-- A step that leads to a node, given by its number. -/
abbrev Assembled := Nat × Assembly

/-- The next token, unless the text cannot be read up to it. -/
def look (a : Assembly) : Except Problem Lexeme :=
  match a.tokens.head? with
  | some ⟨.fault p, _⟩ => .error p
  | some t => .ok t
  | none => .ok ⟨.streamEnd, {}⟩

/-- What is left behind the next token. -/
def next (a : Assembly) : Assembly := { a with tokens := a.tokens.tail }

/-- The complaint about a token that does not belong where it stands. -/
def unexpected (activity : String) (since : Mark) (expected : String) (t : Lexeme) : Problem :=
  .during .layout activity since (expected ++ quoted (Text.ofString t.token.label)) t.mark

/-- The anchor and the tag before a node, in either order. -/
def properties (a : Assembly) : Except Problem (Properties × Assembly) := do
  let first ← a.look
  match first.token with
  | .anchor name =>
    let second ← a.next.look
    let p : Properties := { anchor := some name, start := some first.mark }
    match second.token with
    | .tag h t => return ({ p with tag := some (h, t), tagStart := second.mark }, a.next.next)
    | _ => return (p, a.next)
  | .tag h t =>
    let second ← a.next.look
    let p : Properties := { tag := some (h, t), start := some first.mark, tagStart := first.mark }
    match second.token with
    | .anchor name => return ({ p with anchor := some name }, a.next.next)
    | _ => return (p, a.next)
  | _ => return ({}, a)

/-- The tag in full. -/
def fullTag (a : Assembly) (p : Properties) : Except Problem (Option Text) :=
  match p.tag with
  | none => .ok none
  | some (none, t) => .ok (some t)
  | some (some h, t) =>
    match a.handles.lookup h with
    | some start => .ok (some (start ++ t))
    | none =>
      .error
        (.during .layout "while parsing a node" (p.start.getD {})
          ("found undefined tag handle " ++ quoted h) p.tagStart)

/-- The tag that stands for none. -/
def noTag : Text := ['!']

/-- The tag of a collection. -/
def collectionTag (given : Option Text) (own : Tag) : Text :=
  match given with
  | none => own.name
  | some t => if t = noTag then own.name else t

/-- The tag of a scalar. -/
def scalarTag (given : Option Text) (plain : Bool) (t : Text) : Text :=
  match given with
  | none => if plain then (resolve t).name else Tag.text.name
  | some tag => if tag = noTag then (resolve t).name else tag

/-- The assembly with a new node, under its anchor if it has one. An anchor is given only once. -/
def add (a : Assembly) (anchor : Option Text) (n : Node) : Except Problem Assembled :=
  let (id, g) := a.graph.add n
  match anchor with
  | none => .ok (id, { a with graph := g })
  | some name =>
    match a.anchors.lookup name with
    | some first =>
      .error
        (.during .references ("found duplicate anchor " ++ quoted name ++ "; first occurrence")
          (a.graph.mark first) "second occurrence" n.mark)
    | none => .ok (id, { a with graph := g, anchors := (name, id) :: a.anchors })

/-- The node that is written where none is: nothing. -/
def addNothing (a : Assembly) (m : Mark) : Assembled :=
  let (id, g) := a.graph.add ⟨Tag.null.name, m, .scalar (.text [])⟩
  (id, { a with graph := g })

/-- The assembly with the parts of a node that was added before them. -/
def complete (a : Assembly) (id : Nat) (s : Shape) : Assembly :=
  { a with graph := a.graph.reshape id s }

/-- The node that an alias stands for. -/
def resolveAlias (a : Assembly) (name : Text) (m : Mark) : Except Problem Nat :=
  match a.anchors.lookup name with
  | some id => .ok id
  | none => .error (.found .references ("found undefined alias " ++ quoted name) m)

/-- Where a node stands. -/
inductive Position where
  /-- In a flow collection. -/
  | flow
  /-- In a block. -/
  | block
  /-- In a block mapping, where the entries of a sequence need no deeper indentation. -/
  | blockEntry
  deriving DecidableEq, Repr

/-- The word for a position in a complaint. -/
def Position.label : Position → String
  | .flow => "flow"
  | _ => "block"

/-- The number of nodes that may lie in one another. This is no rule of the format, which sets no
limit. It stands for the room that there is for calls within calls, by which nodes are put together:
an estimate, since some of that room is taken already by whoever asks for the document. -/
def mostDepth : Nat := 480

/-- The problem of nodes that lie too deep in one another. -/
def tooDeep : Problem := .misfit .depth

mutual

/-- The node that comes next; `depth` nodes lie around it. Where no content comes, its properties
are all that is written of it; without any there is no node. -/
def node : (fuel : Nat) → (depth : Nat) → Position → Assembly → Except Problem Assembled
  | 0, _, _, _ => .error tooDeep
  | fuel + 1, depth, position, a => do
    if mostDepth ≤ depth then throw tooDeep
    let first ← a.look
    if let .reuse name := first.token then
      return (← a.resolveAlias name first.mark, a.next)
    let (p, a) ← a.properties
    let tag ← a.fullTag p
    let t ← a.look
    let start := p.start.getD t.mark
    let list : Node := ⟨collectionTag tag .list, start, .sequence []⟩
    let map : Node := ⟨collectionTag tag .map, start, .mapping []⟩
    match t.token, position with
    | .blockEntry, .blockEntry =>
      let (id, a) ← a.add p.anchor list
      let (items, a) ← entriesWithoutEnd fuel (depth + 1) a
      return (id, a.complete id (.sequence items))
    | .scalar content plain, _ =>
      a.next.add p.anchor ⟨scalarTag tag plain content.shown, start, .scalar content⟩
    | .flowSequenceStart, _ =>
      let (id, a) ← a.next.add p.anchor list
      let (items, a) ← flowItems fuel (depth + 1) t.mark true a
      return (id, a.complete id (.sequence items))
    | .flowMappingStart, _ =>
      let (id, a) ← a.next.add p.anchor map
      let (entries, a) ← flowEntries fuel (depth + 1) t.mark true a
      return (id, a.complete id (.mapping entries))
    | .blockSequenceStart, .block | .blockSequenceStart, .blockEntry =>
      let (id, a) ← a.next.add p.anchor list
      let (items, a) ← blockItems fuel (depth + 1) t.mark a
      return (id, a.complete id (.sequence items))
    | .blockMappingStart, .block | .blockMappingStart, .blockEntry =>
      let (id, a) ← a.next.add p.anchor map
      let (entries, a) ← blockEntries fuel (depth + 1) t.mark a
      return (id, a.complete id (.mapping entries))
    | _, _ =>
      if p.anchor.isNone && tag.isNone then
        throw
          (unexpected ("while parsing a " ++ position.label ++ " node") start
            "expected the node content, but found " t)
      a.add p.anchor ⟨scalarTag tag true [], start, .scalar (.text [])⟩

/-- The node that comes next, or nothing, at the place `empty`, if one of the given tokens comes
first. -/
def nodeUnless : (fuel : Nat) → (depth : Nat) → (empty : Mark) → List Token → Position → Assembly →
    Except Problem Assembled
  | 0, _, _, _, _, _ => .error tooDeep
  | fuel + 1, depth, empty, stops, position, a => do
    if (← a.look).token ∈ stops then return a.addNothing empty
    node fuel depth position a

/-- The value of an entry: the node behind its sign, or nothing, at the next token. -/
def valueUnless : (fuel : Nat) → (depth : Nat) → List Token → Position → Assembly →
    Except Problem Assembled
  | 0, _, _, _, _ => .error tooDeep
  | fuel + 1, depth, stops, position, a => do
    let t ← a.look
    if t.token = .value then nodeUnless fuel depth t.mark.next stops position a.next
    else return a.addNothing t.mark

/-- The items of a block sequence up to its end. -/
def blockItems : (fuel : Nat) → (depth : Nat) → (since : Mark) → Assembly →
    Except Problem (List Nat × Assembly)
  | 0, _, _, _ => .error tooDeep
  | fuel + 1, depth, since, a => do
    let t ← a.look
    match t.token with
    | .blockEntry =>
      let (n, a) ← nodeUnless fuel depth t.mark.next [.blockEntry, .blockEnd] .block a.next
      let (ns, a) ← blockItems fuel depth since a
      return (n :: ns, a)
    | .blockEnd => return ([], a.next)
    | _ =>
      throw
        (unexpected "while parsing a block collection" since "expected <block end>, but found " t)

/-- The items of a sequence that has no end of its own. -/
def entriesWithoutEnd : (fuel : Nat) → (depth : Nat) → Assembly →
    Except Problem (List Nat × Assembly)
  | 0, _, _ => .error tooDeep
  | fuel + 1, depth, a => do
    let t ← a.look
    match t.token with
    | .blockEntry =>
      let stops := [.blockEntry, .key, .value, .blockEnd]
      let (n, a) ← nodeUnless fuel depth t.mark.next stops .block a.next
      let (ns, a) ← entriesWithoutEnd fuel depth a
      return (n :: ns, a)
    | _ => return ([], a)

/-- The entries of a block mapping up to its end. -/
def blockEntries : (fuel : Nat) → (depth : Nat) → (since : Mark) → Assembly →
    Except Problem (List (Nat × Nat) × Assembly)
  | 0, _, _, _ => .error tooDeep
  | fuel + 1, depth, since, a => do
    let t ← a.look
    match t.token with
    | .key =>
      let stops := [.key, .value, .blockEnd]
      let (k, a) ← nodeUnless fuel depth t.mark.next stops .blockEntry a.next
      let (v, a) ← valueUnless fuel depth stops .blockEntry a
      let (es, a) ← blockEntries fuel depth since a
      return ((k, v) :: es, a)
    | .blockEnd => return ([], a.next)
    | _ =>
      throw (unexpected "while parsing a block mapping" since "expected <block end>, but found " t)

/-- The items of a flow sequence up to its end; between two of them there is a comma. A key makes an
item a mapping with one entry. -/
def flowItems : (fuel : Nat) → (depth : Nat) → (since : Mark) → (first : Bool) → Assembly →
    Except Problem (List Nat × Assembly)
  | 0, _, _, _, _ => .error tooDeep
  | fuel + 1, depth, since, first, a => do
    let t ← a.look
    if t.token = .flowSequenceEnd then return ([], a.next)
    if !first && t.token ≠ .flowEntry then
      throw (unexpected "while parsing a flow sequence" since "expected ',' or ']', but got " t)
    let a := if first then a else a.next
    let t ← a.look
    match t.token with
    | .flowSequenceEnd => return ([], a.next)
    | .key =>
      let (id, a) ← a.next.add none ⟨Tag.map.name, t.mark, .mapping []⟩
      let stops := [.flowEntry, .flowSequenceEnd]
      let (k, a) ← nodeUnless fuel (depth + 1) t.mark.next (.value :: stops) .flow a
      let (v, a) ← valueUnless fuel (depth + 1) stops .flow a
      let (ns, a) ← flowItems fuel depth since false (a.complete id (.mapping [(k, v)]))
      return (id :: ns, a)
    | _ =>
      let (n, a) ← node fuel depth .flow a
      let (ns, a) ← flowItems fuel depth since false a
      return (n :: ns, a)

/-- The entries of a flow mapping up to its end; between two of them there is a comma. -/
def flowEntries : (fuel : Nat) → (depth : Nat) → (since : Mark) → (first : Bool) → Assembly →
    Except Problem (List (Nat × Nat) × Assembly)
  | 0, _, _, _, _ => .error tooDeep
  | fuel + 1, depth, since, first, a => do
    let t ← a.look
    if t.token = .flowMappingEnd then return ([], a.next)
    if !first && t.token ≠ .flowEntry then
      throw (unexpected "while parsing a flow mapping" since "expected ',' or '\x7d', but got " t)
    let a := if first then a else a.next
    let t ← a.look
    match t.token with
    | .flowMappingEnd => return ([], a.next)
    | .key =>
      let stops := [.flowEntry, .flowMappingEnd]
      let (k, a) ← nodeUnless fuel depth t.mark.next (.value :: stops) .flow a.next
      let (v, a) ← valueUnless fuel depth stops .flow a
      let (es, a) ← flowEntries fuel depth since false a
      return ((k, v) :: es, a)
    | _ =>
      let (k, a) ← node fuel depth .flow a
      let (v, a) := a.addNothing (← a.look).mark
      let (es, a) ← flowEntries fuel depth since false a
      return ((k, v) :: es, a)

end

/-- The handles that need no directive. -/
def defaultHandles : List (Text × Text) :=
  [(['!'], ['!']), (['!', '!'], Text.ofString Tag.namespaceName)]

/-- Carries out the directives before a document; `versioned` tells whether a version was given.
`fuel` bounds their number. -/
def directivesWithin : (fuel : Nat) → (versioned : Bool) → Assembly → Except Problem Assembly
  | 0, _, a => .ok a
  | fuel + 1, versioned, a => do
    let t ← a.look
    match t.token with
    | .directive (.version major) =>
      if versioned then throw (.found .layout "found duplicate YAML directive" t.mark)
      if major ≠ 1 then
        throw
          (.found .layout "found incompatible YAML document (version 1.* is required)" t.mark)
      directivesWithin fuel true a.next
    | .directive (.handle h start) =>
      if (a.handles.lookup h).isSome then
        throw (.found .layout ("duplicate tag handle " ++ quoted h) t.mark)
      directivesWithin fuel versioned { a.next with handles := (h, start) :: a.handles }
    | .directive .other => directivesWithin fuel versioned a.next
    | _ => return a

/-- What is left behind marks for the end of a document; `fuel` bounds their number. -/
def skipEndsWithin : (fuel : Nat) → Assembly → Except Problem Assembly
  | 0, a => .ok a
  | fuel + 1, a => do
    if (← a.look).token = .documentEnd then skipEndsWithin fuel a.next else return a

/-- A bound for the number of steps that the rest of the tokens can take. -/
def fuel (a : Assembly) : Nat := 4 * a.tokens.length + 8

/-- Where an announced document starts and what is left behind its start, or nothing at the end of
the stream. -/
def start? (a : Assembly) : Except Problem (Option (Mark × Assembly)) := do
  let a ← skipEndsWithin a.fuel a
  let first ← a.look
  if first.token = .streamEnd then return none
  let a ← directivesWithin a.fuel false { a with handles := [] }
  let t ← a.look
  if t.token = .documentStart then
    return some (first.mark, { a.next with handles := a.handles ++ defaultHandles })
  throw
    (.found .layout
      ("expected '<document start>', but found " ++ quoted (Text.ofString t.token.label)) t.mark)

/-- Whether a token belongs to the space between documents. -/
def isBetween : Token → Bool
  | .directive _ => true
  | .documentStart => true
  | .streamEnd => true
  | _ => false

/-- The content of an announced document. -/
def content (a : Assembly) : Except Problem Assembled := do
  let t ← a.look
  if isBetween t.token || t.token = .documentEnd then return a.addNothing t.mark
  a.node a.fuel 0 .block

/-- The first document of the stream, if there is one. -/
def document? (a : Assembly) : Except Problem (Option Assembled) := do
  if isBetween (← a.look).token then
    match ← a.start? with
    | some (_, a) => return some (← a.content)
    | none => return none
  else
    let a := { a with handles := defaultHandles }
    return some (← a.node a.fuel 0 .block)

/-- What is left behind the mark for the end of a document, if it comes next. -/
def skipEnd (a : Assembly) : Except Problem Assembly := do
  if (← a.look).token = .documentEnd then return a.next else return a

end Assembly

/-- The document in a list of tokens: its nodes, and the number of the outermost. A second document
is not allowed. -/
def Graph.ofTokens (ts : List Lexeme) : Except Problem (Option (Nat × Graph)) := do
  match ← Assembly.document? { tokens := ts } with
  | none => return none
  | some (id, a) =>
    match ← (← a.skipEnd).start? with
    | none => return some (id, a.graph)
    | some (second, _) =>
      throw
        (.during .references "expected a single document in the stream" (a.graph.mark id)
          "but found another document" second)

end Typeset.Yaml
