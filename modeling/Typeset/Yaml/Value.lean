import Typeset.Data.Value
import Typeset.Yaml.Assembly
import Typeset.Yaml.Bytes
import Typeset.Yaml.Merge
import Typeset.Yaml.Moment
import Typeset.Yaml.Number

/-!
# The values of nodes

What the nodes of a document stand for. A scalar is read as its tag says; in a mapping, a later
entry takes the place of an earlier one with the same key.

Every node is built once, and a collection is built before its parts: first the outermost node, then
all parts of it, then the parts of these, and so on. So of several nodes that cannot be read the one
that lies least deep is reported, and a collection may be part of itself.

## Main definitions

* `Yaml.Leaf`, `Yaml.Leaf.isSame`: scalars as values, and when two keys are the same
* `Yaml.Part`, `Yaml.Workpiece`: what a node is built to, and all of that
* `Yaml.Workpiece.start`, `Yaml.Workpiece.fill`: building a node and its parts
* `Yaml.load`: the value of a document
-/

namespace Typeset.Yaml

open Data (Value)

/-! ## Scalars -/

/-- A truth value. -/
def readBool (t : Text) : Except Problem Bool :=
  let word := Text.str (Text.lower t)
  if ["yes", "true", "on"].contains word then .ok true
  else if ["no", "false", "off"].contains word then .ok false
  else .error (.misfit .word)

/-- A moment. -/
def readMoment (t : Text) : Except Problem Value :=
  match momentParts? true (dropFinalBreak t) with
  | none => .error (.misfit .moment)
  | some p => (momentOfParts? p).elim (.error (.misfit .value)) fun m => .ok (.moment m)

/-- A text, or code points that make up none. -/
def readText : Content → Value
  | .text t => .text (Text.str t)
  | .codes ns => .codes ns

/-- A scalar as a value. Values that are no number differ from one another unless they come from the
same place; `origin` tells the place. -/
structure Leaf where
  value : Value
  origin : Option Nat := none

/-- A number as far as it matters for keys: truth values are one and zero. -/
inductive KeyNumber where
  | whole (n : Int)
  | real (x : Float)

/-- The number that a key is, if it is one. -/
def keyNumber? : Value → Option KeyNumber
  | .bool b => some (.whole (if b then 1 else 0))
  | .int n => some (.whole n)
  | .float x => some ((Decimal.whole? x).elim (.real x) .whole)
  | _ => none

/-- Whether two keys are the same. Numbers are compared by value. -/
def Leaf.isSame (a b : Leaf) : Bool :=
  match keyNumber? a.value, keyNumber? b.value with
  | some (.whole m), some (.whole n) => m == n
  | some (.real x), some (.real y) => x == y || (x.isNaN && y.isNaN && a.origin == b.origin)
  | _, _ =>
    match a.value, b.value with
    | .null, .null => true
    | .text s, .text t => s == t
    | .codes s, .codes t => s == t
    | .bytes s, .bytes t => s == t
    | .moment m, .moment n => m.isSame n
    | _, _ => false

/-- Entries with one more; it takes the place of an entry with the same key. -/
def putEntry (k : Leaf) (v : Nat) : List (Leaf × Nat) → List (Leaf × Nat)
  | [] => [(k, v)]
  | (j, w) :: es => if j.isSame k then (j, v) :: es else (j, w) :: putEntry k v es

/-! ## Building -/

/-- What a node is built to; nodes inside it are given by their numbers. -/
inductive Part where
  | leaf (l : Leaf)
  | list (items : List Nat)
  | pairs (items : List (Nat × Nat))
  | set (keys : List Leaf)
  | map (entries : List (Leaf × Nat))

/-- Nodes being built. -/
structure Workpiece where
  graph : Graph
  /-- What the nodes are built to, by their numbers. -/
  parts : Array (Option Part)
  /-- The collections whose own nodes are still to be built, the latest first. -/
  unfilled : List Nat := []

namespace Workpiece

/-- What a node is built to. -/
def part? (w : Workpiece) (id : Nat) : Option Part := (w.parts[id]?).join

/-- The nodes with what one of them is built to. -/
def put (w : Workpiece) (id : Nat) (p : Part) : Workpiece :=
  { w with parts := w.parts.setIfInBounds id (some p) }

/-- The complaint about a tag without a meaning. -/
def unknownTag (n : Node) : Problem :=
  .found .values ("could not determine a constructor for the tag " ++ quoted n.tag) n.mark

/-- The complaint about a node of the wrong kind. -/
def wrongKind (expected : String) (n : Node) : Problem :=
  .found .values ("expected a " ++ expected ++ " node, but found " ++ n.shape.kind) n.mark

/-- What a node says that is read as a scalar: a mapping says what its entry at the mark for the
value says. -/
def contentWithin (g : Graph) : (fuel : Nat) → (id : Nat) → Except Problem Content
  | 0, _ => .error (.misfit .depth)
  | fuel + 1, id =>
    match g.node? id with
    | none => .error (.misfit .depth)
    | some n =>
      match n.shape with
      | .scalar c => .ok c
      | .sequence _ => .error (wrongKind "scalar" n)
      | .mapping es =>
        match es.find? fun (k, _) => g.tag k = Tag.value.name with
        | some (_, v) => contentWithin g fuel v
        | none => .error (wrongKind "scalar" n)

/-- The value of a node that is read as a scalar. -/
def readLeaf (g : Graph) (id : Nat) (n : Node) (tag : Tag) : Except Problem Leaf := do
  let c ← contentWithin g (g.size + 1) id
  let t := c.shown
  match tag with
  | .null => return ⟨.null, none⟩
  | .bool => return ⟨.bool (← readBool t), none⟩
  | .int => return ⟨.int (← readInt t), none⟩
  | .float => return ⟨.float (← readFloat t), if isCommonNaN t then none else some id⟩
  | .text => return ⟨readText c, none⟩
  | .bytes => return ⟨.bytes (← readBytes n.mark c), none⟩
  | .moment =>
    match n.shape with
    | .scalar _ => return ⟨← readMoment t, none⟩
    | _ => throw (.misfit .scalar)
  | _ => throw (unknownTag n)

/-- An empty collection for a tag. -/
def empty? : Tag → Option Part
  | .list => some (.list [])
  | .map => some (.map [])
  | .set => some (.set [])
  | .orderedMap => some (.pairs [])
  | .pairs => some (.pairs [])
  | _ => none

/-- Builds a node, unless it is built already. A collection stays empty at first. -/
def start (w : Workpiece) (id : Nat) : Except Problem Workpiece :=
  match w.part? id, w.graph.node? id with
  | none, some n =>
    match (Tag.ofName? n.tag).filter Tag.isKind with
    | none => .error (unknownTag n)
    | some tag =>
      match empty? tag with
      | some p => .ok { w.put id p with unfilled := id :: w.unfilled }
      | none => (readLeaf w.graph id n tag).map fun l => w.put id (.leaf l)
  | _, _ => .ok w

/-- Builds an entry of the mapping `n`; the key has to be a scalar. -/
def startEntry (n : Node) (w : Workpiece) (done : List (Leaf × Nat)) (k v : Nat) :
    Except Problem (Workpiece × List (Leaf × Nat)) := do
  let w ← w.start k
  match w.part? k with
  | some (.leaf key) => return (← w.start v, putEntry key v done)
  | _ =>
    throw
      (.during .values "while constructing a mapping" n.mark "found unhashable key"
        (w.graph.mark k))

/-- Builds the entries of the mapping `id`. -/
def startEntries (w : Workpiece) (id : Nat) (n : Node) :
    Except Problem (Workpiece × List (Leaf × Nat)) := do
  match n.shape with
  | .mapping _ =>
    let w := { w with graph := ← w.graph.merge id }
    (w.graph.entries id).foldlM (fun (w, done) (k, v) => startEntry n w done k v) (w, [])
  | _ => throw (wrongKind "mapping" n)

/-- What is done with a list of pairs. -/
def pairsActivity (tag : Tag) : String :=
  if tag = .pairs then "while constructing pairs" else "while constructing an ordered map"

/-- Builds an item of a list of pairs, which is a mapping with one entry. -/
def startPair (tag : Tag) (since : Mark) (w : Workpiece) (id : Nat) :
    Except Problem (Workpiece × (Nat × Nat)) := do
  let complain (finding : String) : Problem :=
    .during .values (pairsActivity tag) since finding (w.graph.mark id)
  match (w.graph.node? id).map Node.shape with
  | some (.mapping [(k, v)]) => return (← (← w.start k).start v, (k, v))
  | some (.mapping es) =>
    let count := toString es.length
    throw (complain ("expected a single mapping item, but found " ++ count ++ " items"))
  | some s => throw (complain ("expected a mapping of length 1, but found " ++ s.kind))
  | none => throw (complain "")

/-- Builds the items of a list of pairs. -/
def startPairs (w : Workpiece) (n : Node) (tag : Tag) :
    Except Problem (Workpiece × List (Nat × Nat)) := do
  match n.shape with
  | .sequence items =>
    items.foldlM (fun (w, done) id => do
      let (w, p) ← startPair tag n.mark w id
      return (w, done ++ [p])) (w, [])
  | s =>
    throw
      (.during .values (pairsActivity tag) n.mark
        ("expected a sequence, but found " ++ s.kind) n.mark)

/-- Builds the nodes inside a collection. -/
def fill (w : Workpiece) (id : Nat) : Except Problem Workpiece := do
  match w.graph.node? id with
  | none => return w
  | some n =>
    match Tag.ofName? n.tag with
    | some .list =>
      match n.shape with
      | .sequence items => return (← items.foldlM start w).put id (.list items)
      | _ => throw (wrongKind "sequence" n)
    | some .map =>
      let (w, es) ← w.startEntries id n
      return w.put id (.map es)
    | some .set =>
      let (w, es) ← w.startEntries id n
      return w.put id (.set (es.map Prod.fst))
    | some tag =>
      let (w, ps) ← w.startPairs n tag
      return w.put id (.pairs ps)
    | none => return w

/-- Builds the nodes inside all collections. Each round goes one level deeper, so the number of
nodes bounds the number of rounds. -/
def finishWithin : (rounds : Nat) → Workpiece → Except Problem Workpiece
  | 0, w => .ok w
  | rounds + 1, w =>
    if w.unfilled.isEmpty then .ok w
    else do finishWithin rounds (← w.unfilled.reverse.foldlM fill { w with unfilled := [] })

/-- The nodes inside a node. -/
def children (w : Workpiece) (id : Nat) : List Nat :=
  match w.part? id with
  | some (.list items) => items
  | some (.pairs items) => items.flatMap fun (k, v) => [k, v]
  | some (.map es) => es.map Prod.snd
  | _ => []

/-- What is left of a number of values once those of a node are taken away, down to a depth. -/
def remaining (w : Workpiece) : (depth : Nat) → (budget : Nat) → (id : Nat) → Nat
  | 0, budget, _ => budget - 1
  | depth + 1, budget, id =>
    (w.children id).foldl
      (fun left child => if left = 0 then 0 else w.remaining depth left child) (budget - 1)

/-- The value of a node, down to a depth; below that there is nothing. -/
def value (w : Workpiece) : (depth : Nat) → (id : Nat) → Value
  | 0, _ => .null
  | depth + 1, id =>
    match w.part? id with
    | some (.leaf l) => l.value
    | some (.list items) => .list (items.map (w.value depth))
    | some (.pairs items) =>
      .list (items.map fun (k, v) => .pair (w.value depth k) (w.value depth v))
    | some (.set keys) => .set (keys.map Leaf.value)
    | some (.map es) => .map (es.map fun (k, v) => (k.value, w.value depth v))
    | none => .null

/-- The depth to which values are of interest: a collection that is part of itself has no end, and
aliases may multiply the values beyond measure. -/
def depth (w : Workpiece) (id : Nat) : Nat := if w.remaining 64 20000 id = 0 then 4 else 64

end Workpiece

/-- The value of the document in a text; an empty text holds nothing. -/
def load (t : Text) : Except Problem Value := do
  match ← Graph.ofTokens (tokens t) with
  | none => return .null
  | some (id, g) =>
    let w : Workpiece := { graph := g, parts := Array.replicate g.size none }
    let w ← Workpiece.finishWithin (g.size + 1) (← w.start id)
    return w.value (w.depth id) id

end Typeset.Yaml
