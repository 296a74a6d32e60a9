import Typeset.Proofs.Yaml.Token
import Typeset.Yaml.Value

/-!
# Misfits in documents

A document that breaks no rule may still have no value, since it announces a scalar as a truth
value, a number or a moment that is none. The rest of what may be wrong with the values in it is a
broken rule: while values are built, entries of mappings are merged, but a node keeps its tag,
except that a mark becomes a text, and no scalar says anything new.

## Main definitions

* `Yaml.Graph.Becomes`: what may happen to nodes while values are built
* `Yaml.Misreads`, `Yaml.Graph.HasMisfit`: scalars that are not what they are announced to be

## Main results

* `Yaml.Graph.yields_merge`: merging only breaks rules
* `Yaml.misfit_of_load`: where the misfits of a document come from
-/

namespace Typeset.Yaml

open Data (Value)

variable {g h k : Graph} {id : Nat} {m : Misfit}

/-! ## Nodes while values are built -/

namespace Graph

/-- Every node of the graph `h` is one of `g`: it has the same tag, or that of a text, and if it is
a scalar, it was one and says the same. -/
def Becomes (g h : Graph) : Prop :=
  ∀ id n', h.node? id = some n' → ∃ n, g.node? id = some n ∧
    (n'.tag = n.tag ∨ n'.tag = Tag.text.name) ∧ ∀ c, n'.shape = .scalar c → n.shape = .scalar c

theorem Becomes.refl (g : Graph) : g.Becomes g := fun _ n hn => ⟨n, hn, .inl rfl, fun _ hc => hc⟩

theorem Becomes.trans (hg : g.Becomes h) (hh : h.Becomes k) : g.Becomes k := by
  intro id n'' hn''
  obtain ⟨n', hn', htag', hscalar'⟩ := hh id n'' hn''
  obtain ⟨n, hn, htag, hscalar⟩ := hg id n' hn'
  refine ⟨n, hn, ?_, fun c hc => hscalar c (hscalar' c hc)⟩
  rcases htag' with htag' | htag'
  · rwa [htag']
  · exact .inr htag'

theorem becomes_modify {f : Node → Node} (g : Graph) (id : Nat)
    (htag : ∀ n, (f n).tag = n.tag ∨ (f n).tag = Tag.text.name)
    (hscalar : ∀ n c, (f n).shape = .scalar c → n.shape = .scalar c) :
    g.Becomes (g.modify id f) := by
  intro id' n' hn'
  rw [node?, Array.getElem?_modify] at hn'
  split at hn'
  · obtain ⟨n, hn, rfl⟩ := Option.map_eq_some_iff.mp hn'
    exact ⟨n, hn, htag n, hscalar n⟩
  · exact ⟨n', hn', .inl rfl, fun _ hc => hc⟩

theorem becomes_reshape (g : Graph) (id : Nat) (es : List (Nat × Nat)) :
    g.Becomes (g.reshape id (.mapping es)) :=
  becomes_modify g id (fun _ => .inl rfl) nofun

theorem becomes_retag (g : Graph) (id : Nat) : g.Becomes (g.retag id Tag.text.name) :=
  becomes_modify g id (fun _ => .inr rfl) fun _ _ hc => hc

/-! ## Merging -/

/-- A step that breaks a rule, or leads to a graph whose nodes are those of `g`. -/
abbrev Merges (g : Graph) (x : Except Problem Graph) : Prop :=
  Yields (fun _ => False) g.Becomes x

/-- A step that leads to entries as well. -/
abbrev Gathers (g : Graph) (x : Except Problem (List (Nat × Nat) × Graph)) : Prop :=
  Yields (fun _ => False) (fun r => g.Becomes r.2) x

theorem Gathers.bind {α : Type} {Q : α → Prop} {x : Except Problem (List (Nat × Nat) × Graph)}
    {f : List (Nat × Nat) × Graph → Except Problem α} (hx : g.Gathers x)
    (hf : ∀ es h, g.Becomes h → Yields (fun _ => False) Q (f (es, h))) :
    Yields (fun _ => False) Q (x >>= f) :=
  Yields.bind hx fun r hr => hf r.1 r.2 hr

/-- What holds of all steps of merging that a number of steps may lead through. -/
structure MergesWithin (fuel : Nat) : Prop where
  merge : ∀ {g h : Graph} {id}, g.Becomes h → g.Merges (mergeWithin fuel id h)
  gather : ∀ {g h : Graph} {id index merged}, g.Becomes h →
    g.Gathers (gatherWithin fuel id index merged h)
  mergeAll : ∀ {g h : Graph} {since ids}, g.Becomes h →
    g.Gathers (mergeAllWithin fuel since ids h)

theorem mergesWithin_zero : MergesWithin 0 := by
  constructor <;> intros <;> rename_i hg
  · unfold mergeWithin
    exact hg
  · unfold gatherWithin
    exact hg
  · unfold mergeAllWithin
    exact hg

namespace MergesWithin

variable {fuel index : Nat} {merged : List (Nat × Nat)} {since : Mark} {ids : List Nat}

theorem merge_succ (hfuel : MergesWithin fuel) (hg : g.Becomes h) :
    g.Merges (mergeWithin (fuel + 1) id h) := by
  unfold mergeWithin
  refine Gathers.bind (hfuel.gather hg) fun merged h hg => .pure ?_
  split
  · exact hg
  · exact hg.trans (becomes_reshape _ _ _)

/-- The mark for merging is taken out before the entries that it stands for are gathered. -/
theorem gather_succ (hfuel : MergesWithin fuel) (hg : g.Becomes h) :
    g.Gathers (gatherWithin (fuel + 1) id index merged h) := by
  unfold gatherWithin
  split
  · exact hg
  split
  · have hout := hg.trans (becomes_reshape h id ((h.entries id).eraseIdx index))
    dsimp only
    split
    · exact (hfuel.merge hout).bind fun h hg => hfuel.gather hg
    · exact Gathers.bind (hfuel.mergeAll hout) fun parts h hg => hfuel.gather hg
    · exact trivial
  split
  · exact hfuel.gather (hg.trans (becomes_retag h _))
  · exact hfuel.gather hg

theorem mergeAll_succ (hfuel : MergesWithin fuel) (hg : g.Becomes h) :
    g.Gathers (mergeAllWithin (fuel + 1) since ids h) := by
  cases ids with
  | nil => exact hg
  | cons id ids =>
    unfold mergeAllWithin
    split
    · refine (hfuel.merge hg).bind fun h hg => ?_
      exact Gathers.bind (hfuel.mergeAll hg) fun others h hg => .pure hg
    · exact trivial

end MergesWithin

theorem mergesWithin (fuel : Nat) : MergesWithin fuel := by
  induction fuel with
  | zero => exact mergesWithin_zero
  | succ fuel ih => exact ⟨ih.merge_succ, ih.gather_succ, ih.mergeAll_succ⟩

theorem yields_merge (hg : g.Becomes h) (id : Nat) : g.Merges (h.merge id) :=
  (mergesWithin h.mergeFuel).merge hg

end Graph

/-! ## Scalars that are not what they are announced to be -/

/-- A text that is announced by a tag is not what it should be. -/
def Misreads (m : Misfit) (t : Text) : Tag → Prop
  | .bool => readBool t = .error (.misfit m)
  | .int => readInt t = .error (.misfit m)
  | .float => readFloat t = .error (.misfit m)
  | .moment => readMoment t = .error (.misfit m) ∨ m = .scalar
  | _ => False

/-- One of the nodes is announced as a truth value, a number or a moment, and a scalar among them,
which is this node or stands for it, is none. -/
def Graph.HasMisfit (g : Graph) (m : Misfit) : Prop :=
  ∃ id n tag id' s c, g.node? id = some n ∧ n.tag = tag.name ∧ g.node? id' = some s ∧
    s.shape = .scalar c ∧ Misreads m c.shown tag

/-- The misfits that occur while values are built. Nodes may also stand for one another without
end. -/
def Graph.Misfits (g : Graph) (m : Misfit) : Prop := m = .depth ∨ g.HasMisfit m

namespace Workpiece

variable {w : Workpiece} {n : Node} {tag : Tag}

theorem yields_contentWithin (g : Graph) (fuel id : Nat) :
    Yields (· = .depth) (fun c => ∃ id n, g.node? id = some n ∧ n.shape = .scalar c)
      (contentWithin g fuel id) := by
  induction fuel generalizing id with
  | zero => exact rfl
  | succ fuel ih =>
    unfold contentWithin
    split
    · exact rfl
    · next n hn =>
      split
      · next c hc => exact ⟨id, n, hn, hc⟩
      · exact trivial
      · split
        · exact ih _
        · exact trivial

theorem yields_readBytes {P : Misfit → Prop} (mark : Mark) (c : Content) :
    Yields P (fun _ => True) (readBytes mark c) := by
  unfold readBytes
  split
  · exact trivial
  · cases bytes64 0 0 0 0 c.shown <;> exact trivial

theorem Tag.name_injective {a b : Tag} (h : a.name = b.name) : a = b := by
  have ha := Tag.ofName?_name a
  rw [h, Tag.ofName?_name b] at ha
  exact (Option.some.inj ha).symm

/-- Wherever a scalar is read, a misfit is due to its tag. A mark that became a text is not
announced to be anything else. -/
theorem yields_readLeaf (hg : g.Becomes h) (hn : h.node? id = some n) (htag : n.tag = tag.name) :
    Yields g.Misfits (fun _ => True) (readLeaf h id n tag) := by
  unfold readLeaf
  refine ((yields_contentWithin h _ id).mono (fun _ => .inl) fun _ h => h).bind fun c hc => ?_
  have hblame (m : Misfit) (hmisread : Misreads m c.shown tag) : g.Misfits m := by
    refine .inr ?_
    obtain ⟨id', s', hs', hshape'⟩ := hc
    obtain ⟨s, hs, -, hscalar⟩ := hg id' s' hs'
    obtain ⟨n₀, hn₀, htag₀ | htag₀, -⟩ := hg id n hn
    · exact ⟨id, n₀, tag, id', s, c, hn₀, htag₀.symm.trans htag, hs, hscalar c hshape', hmisread⟩
    · obtain rfl := Tag.name_injective (htag.symm.trans htag₀)
      exact hmisread.elim
  have hread {α : Type} {x : Except Problem α} {f : α → Leaf}
      (hx : ∀ m, x = .error (.misfit m) → Misreads m c.shown tag) :
      Yields g.Misfits (fun _ => True) (do return f (← x)) :=
    ((Yields.self x).mono (fun m hm => hblame m (hx m hm)) fun _ h => h).bind
      fun _ _ => .pure trivial
  dsimp only
  split
  · exact .pure trivial
  · exact hread fun m hm => hm
  · exact hread fun m hm => hm
  · exact hread fun m hm => hm
  · exact .pure trivial
  · exact (yields_readBytes _ _).bind fun _ _ => .pure trivial
  · split
    · exact hread fun m hm => .inl hm
    · exact hblame .scalar (.inr rfl)
  · exact trivial

/-! ## Building -/

/-- Nodes are built from those of a graph, whose nodes they still are. -/
abbrev Builds (g : Graph) (x : Except Problem Workpiece) : Prop :=
  Yields g.Misfits (fun w => g.Becomes w.graph) x

/-- Nodes are built, and something is done with them. -/
abbrev BuildsWith (g : Graph) {α : Type} (x : Except Problem (Workpiece × α)) : Prop :=
  Yields g.Misfits (fun r => g.Becomes r.1.graph) x

theorem BuildsWith.bind {α β : Type} {Q : β → Prop} {x : Except Problem (Workpiece × α)}
    {f : Workpiece × α → Except Problem β} (hx : BuildsWith g x)
    (hf : ∀ w a, g.Becomes w.graph → Yields g.Misfits Q (f (w, a))) :
    Yields g.Misfits Q (x >>= f) :=
  Yields.bind hx fun r hr => hf r.1 r.2 hr

theorem builds_start (hw : g.Becomes w.graph) (id : Nat) : Builds g (w.start id) := by
  unfold start
  split
  · next n _ hn =>
    split
    · exact trivial
    · next tag htag =>
      have hfind : Tag.all.find? (fun t => t.name = n.tag) = some tag :=
        (Option.filter_eq_some_iff.mp htag).1
      have hname := List.find?_some hfind
      split
      · exact hw
      · exact (yields_readLeaf hw hn (of_decide_eq_true hname).symm).map fun _ _ => hw
  · exact hw

theorem builds_startEntry (hw : g.Becomes w.graph) (n : Node) (done : List (Leaf × Nat))
    (k v : Nat) : BuildsWith g (startEntry n w done k v) := by
  unfold startEntry
  refine (builds_start hw k).bind fun w hw => ?_
  split
  · exact (builds_start hw v).bind fun w hw => .pure hw
  · exact trivial

theorem builds_startEntries (hw : g.Becomes w.graph) (id : Nat) (n : Node) :
    BuildsWith g (w.startEntries id n) := by
  unfold startEntries
  split
  · have hmerge : Yields g.Misfits g.Becomes (w.graph.merge id) :=
      (Graph.yields_merge hw id).mono nofun fun _ h => h
    refine hmerge.bind fun h hh => ?_
    exact Yields.foldlM hh fun r hr e _ => builds_startEntry hr n r.2 e.1 e.2
  · exact trivial

theorem builds_startPair (hw : g.Becomes w.graph) (tag : Tag) (since : Mark) (id : Nat) :
    BuildsWith g (startPair tag since w id) := by
  unfold startPair
  dsimp only
  split
  · refine (builds_start hw _).bind fun w hw => ?_
    exact (builds_start hw _).bind fun w hw => .pure hw
  · exact trivial
  · exact trivial
  · exact trivial

theorem builds_startPairs (hw : g.Becomes w.graph) (n : Node) (tag : Tag) :
    BuildsWith g (w.startPairs n tag) := by
  unfold startPairs
  split
  · refine Yields.foldlM hw fun r hr id _ => ?_
    exact BuildsWith.bind (builds_startPair hr tag n.mark id) fun w p hw => .pure hw
  · exact trivial

theorem builds_fill (hw : g.Becomes w.graph) (id : Nat) : Builds g (w.fill id) := by
  unfold fill
  split
  · exact .pure hw
  split
  · split
    · refine Yields.bind (Yields.foldlM hw fun w hw id _ => builds_start hw id) fun w hw => ?_
      exact .pure hw
    · exact trivial
  · exact BuildsWith.bind (builds_startEntries hw id _) fun w es hw => .pure hw
  · exact BuildsWith.bind (builds_startEntries hw id _) fun w es hw => .pure hw
  · exact BuildsWith.bind (builds_startPairs hw _ _) fun w ps hw => .pure hw
  · exact .pure hw

theorem builds_finishWithin (rounds : Nat) (hw : g.Becomes w.graph) :
    Builds g (finishWithin rounds w) := by
  induction rounds generalizing w with
  | zero => exact hw
  | succ rounds ih =>
    unfold finishWithin
    split
    · exact hw
    · have hempty : g.Becomes { w with unfilled := [] }.graph := hw
      refine Yields.bind (Yields.foldlM hempty fun w hw id _ => builds_fill hw id) fun w hw => ?_
      exact ih hw

end Workpiece

/-- Where a misfit comes from: nodes lie too deep in one another, the text asks for a code point or
a version beyond what there is, or a node is announced as a truth value, a number or a moment, and
its scalar is none. -/
theorem misfit_of_load {t : Text} (ht : load t = .error (.misfit m)) :
    m = .depth ∨ Exceeds t m ∨
      ∃ id g, Graph.ofTokens (tokens t) = .ok (some (id, g)) ∧ g.HasMisfit m := by
  have htokens := Graph.yields_ofTokens (tokens t)
  unfold load at ht
  cases hg : Graph.ofTokens (tokens t) with
  | error p =>
    rw [hg] at htokens ht
    cases ht
    rcases htokens with hdepth | ⟨a, ha, hfault⟩
    · exact .inl hdepth
    · exact .inr (.inl (exceeds_of_fault ha hfault))
  | ok r =>
    rw [hg] at ht
    cases r with
    | none => cases ht
    | some document =>
      obtain ⟨id, g⟩ := document
      have hbuild : Yields g.Misfits (fun _ => True) (do
          let w : Workpiece := { graph := g, parts := Array.replicate g.size none }
          let w ← Workpiece.finishWithin (g.size + 1) (← w.start id)
          return w.value (w.depth id) id) := by
        refine (Workpiece.builds_start (.refl g) id).bind fun w hw => ?_
        exact (Workpiece.builds_finishWithin _ hw).bind fun w hw => .pure trivial
      have hmisfit : g.Misfits m := by
        change Yields g.Misfits (fun _ => True) (.error (.misfit m) : Except Problem Value)
        rwa [← ht]
      rcases hmisfit with hdepth | hmisfit
      · exact .inl hdepth
      · exact .inr (.inr ⟨id, g, rfl, hmisfit⟩)

end Typeset.Yaml
