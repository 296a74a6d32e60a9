import Typeset.Yaml.Node

/-!
# Merged mappings

An entry of a mapping whose key is the mark for merging stands for the entries of another mapping,
or of several: they come before the mapping's own entries. Merging changes a mapping for good, so
that a mapping which is part of several others is merged only once, even if it is part of itself.

## Main definitions

* `Yaml.Graph.merge`: the graph after merging into one mapping
-/

namespace Typeset.Yaml.Graph

/-- The complaint about something that cannot be merged into the mapping at `since`. -/
def notMergeable (g : Graph) (since : Mark) (expected : String) (id : Nat) : Problem :=
  let kind := ((g.node? id).map fun n => n.shape.kind).getD ""
  .during .values "while constructing a mapping" since
    ("expected " ++ expected ++ ", but found " ++ kind) (g.mark id)

mutual

/-- The graph after merging into the mapping `id`. -/
def mergeWithin : (fuel : Nat) → (id : Nat) → Graph → Except Problem Graph
  | 0, _, g => .ok g
  | fuel + 1, id, g => do
    let (merged, g) ← gatherWithin fuel id 0 [] g
    return if merged.isEmpty then g else g.reshape id (.mapping (merged ++ g.entries id))

/-- Takes the marks for merging out of the entries of a mapping, from the entry `index` on, and
gathers the entries that they stand for behind those of `merged`. The mark for the value of a
mapping becomes a text. -/
def gatherWithin : (fuel : Nat) → (id index : Nat) → (merged : List (Nat × Nat)) → Graph →
    Except Problem (List (Nat × Nat) × Graph)
  | 0, _, _, merged, g => .ok (merged, g)
  | fuel + 1, id, index, merged, g =>
    match (g.entries id)[index]? with
    | none => .ok (merged, g)
    | some (k, v) =>
      if g.tag k = Tag.merge.name then do
        let g := g.reshape id (.mapping ((g.entries id).eraseIdx index))
        match (g.node? v).map Node.shape with
        | some (.mapping _) =>
          let g ← mergeWithin fuel v g
          gatherWithin fuel id index (merged ++ g.entries v) g
        | some (.sequence items) =>
          let (parts, g) ← mergeAllWithin fuel (g.mark id) items g
          gatherWithin fuel id index (merged ++ parts) g
        | _ =>
          throw (g.notMergeable (g.mark id) "a mapping or list of mappings for merging" v)
      else if g.tag k = Tag.value.name then
        gatherWithin fuel id (index + 1) merged (g.retag k Tag.text.name)
      else gatherWithin fuel id (index + 1) merged g

/-- The entries of mappings that are merged into the one at `since`, those of the last mapping
first. -/
def mergeAllWithin : (fuel : Nat) → (since : Mark) → (ids : List Nat) → Graph →
    Except Problem (List (Nat × Nat) × Graph)
  | 0, _, _, g => .ok ([], g)
  | _ + 1, _, [], g => .ok ([], g)
  | fuel + 1, since, id :: ids, g =>
    match (g.node? id).map Node.shape with
    | some (.mapping _) => do
      let g ← mergeWithin fuel id g
      let own := g.entries id
      let (others, g) ← mergeAllWithin fuel since ids g
      return (others ++ own, g)
    | _ => .error (g.notMergeable since "a mapping for merging" id)

end

/-- A bound for the number of steps that merging takes, unless mappings multiply. -/
def mergeFuel (g : Graph) : Nat :=
  let n := g.foldl (fun n node =>
    match node.shape with
    | .mapping es => n + es.length + 1
    | _ => n + 1) 2
  n * n * n

/-- The graph after merging into the mapping `id`. -/
def merge (g : Graph) (id : Nat) : Except Problem Graph := mergeWithin g.mergeFuel id g

end Typeset.Yaml.Graph
