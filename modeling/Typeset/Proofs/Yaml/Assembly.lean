import Mathlib.Data.List.Basic
import Typeset.Yaml.Assembly

/-!
# Misfits among tokens

Most of what is wrong with a document is a broken rule. When the tokens of a document are put
together, anything else is wrong only because a token could not be read, or because nodes lie too
deep in one another.

## Main definitions

* `Yaml.Yields`: what a result satisfies, and what a misfit satisfies in its place

## Main results

* `Yaml.Yields.bind`, `Yaml.Yields.foldlM`: one step after the other
* `Yaml.Graph.yields_ofTokens`: the misfits of a document that is put together from tokens
-/

namespace Typeset.Yaml

variable {α β : Type} {P : Misfit → Prop} {Q : α → Prop} {R : β → Prop}

/-- A result satisfies `Q`, and a misfit in its place satisfies `P`. Broken rules are allowed. -/
def Yields (P : Misfit → Prop) (Q : α → Prop) : Except Problem α → Prop
  | .ok a => Q a
  | .error (.malformed _) => True
  | .error (.misfit m) => P m

namespace Yields

theorem pure {a : α} (h : Q a) : Yields P Q (Pure.pure a) := h

theorem self (x : Except Problem α) :
    Yields (fun m => x = .error (.misfit m)) (fun _ => True) x := by
  match x with
  | .ok _ => exact trivial
  | .error (.malformed _) => exact trivial
  | .error (.misfit _) => exact rfl

theorem bind {x : Except Problem α} {f : α → Except Problem β} (hx : Yields P Q x)
    (hf : ∀ a, Q a → Yields P R (f a)) : Yields P R (x >>= f) := by
  match x, hx with
  | .ok a, ha => exact hf a ha
  | .error (.malformed _), _ => exact trivial
  | .error (.misfit _), hm => exact hm

theorem map {x : Except Problem α} {f : α → β} (hx : Yields P Q x) (hf : ∀ a, Q a → R (f a)) :
    Yields P R (x.map f) := by
  match x, hx with
  | .ok a, ha => exact hf a ha
  | .error (.malformed _), _ => exact trivial
  | .error (.misfit _), hm => exact hm

theorem mono {Q' : α → Prop} {P' : Misfit → Prop} {x : Except Problem α} (hx : Yields P Q x)
    (hP : ∀ m, P m → P' m) (hQ : ∀ a, Q a → Q' a) : Yields P' Q' x := by
  match x, hx with
  | .ok a, ha => exact hQ a ha
  | .error (.malformed _), _ => exact trivial
  | .error (.misfit m), hm => exact hP m hm

theorem ite {c : Prop} [Decidable c] {x y : Except Problem α} (hx : c → Yields P Q x)
    (hy : ¬c → Yields P Q y) : Yields P Q (if c then x else y) := by
  split
  · next h => exact hx h
  · next h => exact hy h

theorem foldlM {f : β → α → Except Problem β} {l : List α} {b : β} (hb : R b)
    (hf : ∀ b, R b → ∀ a ∈ l, Yields P R (f b a)) : Yields P R (l.foldlM f b) := by
  induction l generalizing b with
  | nil => exact hb
  | cons a l ih =>
    rw [List.foldlM_cons]
    exact (hf b hb a List.mem_cons_self).bind fun b' hb' =>
      ih hb' fun b'' hb'' a' ha' => hf b'' hb'' a' (List.mem_cons_of_mem a ha')

end Yields

namespace Assembly

variable {ts : List Lexeme} {a : Assembly}

/-- The misfits of some tokens: those that are found in place of one, and nodes that lie too deep in
one another. -/
def OfTokens (ts : List Lexeme) (m : Misfit) : Prop :=
  m = .depth ∨ ∃ t ∈ ts, t.token = .fault (.misfit m)

/-- All tokens still to come are among the given ones. -/
def Within (ts : List Lexeme) (a : Assembly) : Prop := a.tokens ⊆ ts

/-! ## Single steps -/

theorem Within.next (h : Within ts a) : Within ts a.next :=
  fun _ ht => h (List.mem_of_mem_tail ht)

/-- Between two parts of a flow collection there is a comma. -/
theorem Within.behindComma (h : Within ts a) (first : Bool) :
    Within ts (if first then a else a.next) := by
  split
  · exact h
  · exact h.next

theorem yields_look (h : Within ts a) : Yields (OfTokens ts) (fun _ => True) a.look := by
  unfold look
  split
  · next p m hhead =>
    cases p with
    | malformed _ => exact trivial
    | misfit m => exact .inr ⟨_, h (List.mem_of_mem_head? hhead), rfl⟩
  · exact trivial
  · exact trivial

theorem yields_properties (h : Within ts a) :
    Yields (OfTokens ts) (fun r => Within ts r.2) a.properties := by
  unfold properties
  refine (yields_look h).bind fun first _ => ?_
  split
  · refine (yields_look h.next).bind fun second _ => ?_
    split
    · exact .pure h.next.next
    · exact .pure h.next
  · refine (yields_look h.next).bind fun second _ => ?_
    split
    · exact .pure h.next.next
    · exact .pure h.next
  · exact .pure h

theorem yields_fullTag (p : Properties) : Yields P (fun _ => True) (a.fullTag p) := by
  unfold fullTag
  split
  · exact trivial
  · exact trivial
  · split <;> exact trivial

theorem yields_add (h : Within ts a) (anchor : Option Text) (n : Node) :
    Yields P (fun r => Within ts r.2) (a.add anchor n) := by
  unfold add
  cases anchor with
  | none => exact h
  | some name =>
    dsimp only
    split
    · exact trivial
    · exact h

theorem yields_resolveAlias (name : Text) (m : Mark) :
    Yields P (fun _ => True) (a.resolveAlias name m) := by
  unfold resolveAlias
  split <;> exact trivial

/-! ## Nodes -/

/-- A node, or several, and the tokens behind them. -/
abbrev YieldsNodes (ts : List Lexeme) (x : Except Problem (α × Assembly)) : Prop :=
  Yields (OfTokens ts) (fun r => Within ts r.2) x

theorem YieldsNodes.bind {x : Except Problem (α × Assembly)}
    {f : α × Assembly → Except Problem (β × Assembly)} (hx : YieldsNodes ts x)
    (hf : ∀ y a, Within ts a → YieldsNodes ts (f (y, a))) : YieldsNodes ts (x >>= f) :=
  Yields.bind hx fun r hr => hf r.1 r.2 hr

theorem yields_tooDeep : Yields (OfTokens ts) Q (throw tooDeep) := .inl rfl

/-- A collection is added before its parts, which are put in when they are known. -/
theorem yields_collection (h : Within ts a) (anchor : Option Text) (n : Node) (shape : β → Shape)
    {inside : Assembly → Except Problem (β × Assembly)}
    (hinside : ∀ a, Within ts a → YieldsNodes ts (inside a)) :
    YieldsNodes ts (do
      let (id, a) ← a.add anchor n
      let (parts, a) ← inside a
      return (id, a.complete id (shape parts))) := by
  refine YieldsNodes.bind (yields_add h anchor n) fun id a ha => ?_
  exact (hinside a ha).bind fun parts a ha => .pure ha

/-- What holds of all steps that a number of steps may lead through. -/
structure Sound (ts : List Lexeme) (fuel : Nat) : Prop where
  node : ∀ {depth position a}, Within ts a → YieldsNodes ts (node fuel depth position a)
  nodeUnless : ∀ {depth empty stops position a}, Within ts a →
    YieldsNodes ts (nodeUnless fuel depth empty stops position a)
  valueUnless : ∀ {depth stops position a}, Within ts a →
    YieldsNodes ts (valueUnless fuel depth stops position a)
  blockItems : ∀ {depth since a}, Within ts a → YieldsNodes ts (blockItems fuel depth since a)
  entriesWithoutEnd : ∀ {depth a}, Within ts a → YieldsNodes ts (entriesWithoutEnd fuel depth a)
  blockEntries : ∀ {depth since a}, Within ts a → YieldsNodes ts (blockEntries fuel depth since a)
  flowItems : ∀ {depth since first a}, Within ts a →
    YieldsNodes ts (flowItems fuel depth since first a)
  flowEntries : ∀ {depth since first a}, Within ts a →
    YieldsNodes ts (flowEntries fuel depth since first a)

theorem sound_zero : Sound ts 0 := by
  constructor <;> intros
  · unfold Assembly.node
    exact yields_tooDeep
  · unfold Assembly.nodeUnless
    exact yields_tooDeep
  · unfold Assembly.valueUnless
    exact yields_tooDeep
  · unfold Assembly.blockItems
    exact yields_tooDeep
  · unfold Assembly.entriesWithoutEnd
    exact yields_tooDeep
  · unfold Assembly.blockEntries
    exact yields_tooDeep
  · unfold Assembly.flowItems
    exact yields_tooDeep
  · unfold Assembly.flowEntries
    exact yields_tooDeep

namespace Sound

variable {fuel depth : Nat} {position : Position} {since : Mark}

theorem node_succ (h : Sound ts fuel) (ha : Within ts a) :
    YieldsNodes ts (Assembly.node (fuel + 1) depth position a) := by
  unfold Assembly.node
  split
  · exact yields_tooDeep
  refine (yields_look ha).bind fun first _ => ?_
  split
  · exact (yields_resolveAlias _ _).bind fun id _ => .pure ha.next
  refine YieldsNodes.bind (yields_properties ha) fun p a ha => ?_
  refine (yields_fullTag p).bind fun tag _ => ?_
  refine (yields_look ha).bind fun t _ => ?_
  dsimp only
  split
  · exact yields_collection ha _ _ .sequence fun a ha => h.entriesWithoutEnd ha
  · exact yields_add ha.next _ _
  · exact yields_collection ha.next _ _ .sequence fun a ha => h.flowItems ha
  · exact yields_collection ha.next _ _ .mapping fun a ha => h.flowEntries ha
  · exact yields_collection ha.next _ _ .sequence fun a ha => h.blockItems ha
  · exact yields_collection ha.next _ _ .sequence fun a ha => h.blockItems ha
  · exact yields_collection ha.next _ _ .mapping fun a ha => h.blockEntries ha
  · exact yields_collection ha.next _ _ .mapping fun a ha => h.blockEntries ha
  · split
    · exact trivial
    · exact yields_add ha _ _

theorem nodeUnless_succ (h : Sound ts fuel) {empty : Mark} {stops : List Token}
    (ha : Within ts a) :
    YieldsNodes ts (Assembly.nodeUnless (fuel + 1) depth empty stops position a) := by
  unfold Assembly.nodeUnless
  refine (yields_look ha).bind fun t _ => ?_
  split
  · exact .pure ha
  · exact h.node ha

theorem valueUnless_succ (h : Sound ts fuel) {stops : List Token} (ha : Within ts a) :
    YieldsNodes ts (Assembly.valueUnless (fuel + 1) depth stops position a) := by
  unfold Assembly.valueUnless
  refine (yields_look ha).bind fun t _ => ?_
  split
  · exact h.nodeUnless ha.next
  · exact .pure ha

theorem blockItems_succ (h : Sound ts fuel) (ha : Within ts a) :
    YieldsNodes ts (Assembly.blockItems (fuel + 1) depth since a) := by
  unfold Assembly.blockItems
  refine (yields_look ha).bind fun t _ => ?_
  split
  · refine (h.nodeUnless ha.next).bind fun n a ha => ?_
    exact (h.blockItems ha).bind fun ns a ha => .pure ha
  · exact .pure ha.next
  · exact trivial

theorem entriesWithoutEnd_succ (h : Sound ts fuel) (ha : Within ts a) :
    YieldsNodes ts (Assembly.entriesWithoutEnd (fuel + 1) depth a) := by
  unfold Assembly.entriesWithoutEnd
  refine (yields_look ha).bind fun t _ => ?_
  split
  · refine (h.nodeUnless ha.next).bind fun n a ha => ?_
    exact (h.entriesWithoutEnd ha).bind fun ns a ha => .pure ha
  · exact .pure ha

theorem blockEntries_succ (h : Sound ts fuel) (ha : Within ts a) :
    YieldsNodes ts (Assembly.blockEntries (fuel + 1) depth since a) := by
  unfold Assembly.blockEntries
  refine (yields_look ha).bind fun t _ => ?_
  split
  · refine (h.nodeUnless ha.next).bind fun k a ha => ?_
    refine (h.valueUnless ha).bind fun v a ha => ?_
    exact (h.blockEntries ha).bind fun es a ha => .pure ha
  · exact .pure ha.next
  · exact trivial

/-- An entry without braces is a mapping of its own. -/
theorem flowItems_succ (h : Sound ts fuel) {first : Bool} (ha : Within ts a) :
    YieldsNodes ts (Assembly.flowItems (fuel + 1) depth since first a) := by
  unfold Assembly.flowItems
  refine (yields_look ha).bind fun t _ => ?_
  split
  · exact .pure ha.next
  dsimp only
  split
  · exact trivial
  have hnext := ha.behindComma first
  refine (yields_look hnext).bind fun t _ => ?_
  split
  · exact .pure hnext.next
  · refine YieldsNodes.bind (yields_add hnext.next _ _) fun id a ha => ?_
    refine (h.nodeUnless ha).bind fun k a ha => ?_
    refine (h.valueUnless ha).bind fun v a ha => ?_
    have hitem : Within ts (a.complete id (.mapping [(k, v)])) := ha
    exact YieldsNodes.bind (h.flowItems hitem) fun ns a ha => .pure ha
  · refine (h.node hnext).bind fun n a ha => ?_
    exact (h.flowItems ha).bind fun ns a ha => .pure ha

theorem flowEntries_succ (h : Sound ts fuel) {first : Bool} (ha : Within ts a) :
    YieldsNodes ts (Assembly.flowEntries (fuel + 1) depth since first a) := by
  unfold Assembly.flowEntries
  refine (yields_look ha).bind fun t _ => ?_
  split
  · exact .pure ha.next
  dsimp only
  split
  · exact trivial
  have hnext := ha.behindComma first
  refine (yields_look hnext).bind fun t _ => ?_
  split
  · exact .pure hnext.next
  · refine (h.nodeUnless hnext.next).bind fun k a ha => ?_
    refine (h.valueUnless ha).bind fun v a ha => ?_
    exact (h.flowEntries ha).bind fun es a ha => .pure ha
  · refine (h.node hnext).bind fun k a ha => ?_
    refine (yields_look ha).bind fun t _ => ?_
    have hentry : Within ts (a.addNothing t.mark).2 := ha
    exact YieldsNodes.bind (h.flowEntries hentry) fun es a ha => .pure ha

end Sound

/-- Nodes are put together from nodes that take fewer steps. -/
theorem sound (ts : List Lexeme) (fuel : Nat) : Sound ts fuel := by
  induction fuel with
  | zero => exact sound_zero
  | succ fuel ih =>
    exact ⟨ih.node_succ, ih.nodeUnless_succ, ih.valueUnless_succ, ih.blockItems_succ,
      ih.entriesWithoutEnd_succ, ih.blockEntries_succ, ih.flowItems_succ, ih.flowEntries_succ⟩

/-! ## Documents -/

theorem yields_directivesWithin (fuel : Nat) (versioned : Bool) (ha : Within ts a) :
    Yields (OfTokens ts) (Within ts) (directivesWithin fuel versioned a) := by
  induction fuel generalizing versioned a with
  | zero => exact ha
  | succ fuel ih =>
    unfold directivesWithin
    refine (yields_look ha).bind fun t _ => ?_
    split
    · dsimp only
      split
      · exact trivial
      split
      · exact trivial
      · exact ih true ha.next
    · split
      · exact trivial
      · exact ih versioned ha.next
    · exact ih versioned ha.next
    · exact .pure ha

theorem yields_skipEndsWithin (fuel : Nat) (ha : Within ts a) :
    Yields (OfTokens ts) (Within ts) (skipEndsWithin fuel a) := by
  induction fuel generalizing a with
  | zero => exact ha
  | succ fuel ih =>
    unfold skipEndsWithin
    refine (yields_look ha).bind fun t _ => ?_
    split
    · exact ih ha.next
    · exact .pure ha

theorem yields_start? (ha : Within ts a) :
    Yields (OfTokens ts) (fun r => ∀ p ∈ r, Within ts p.2) a.start? := by
  unfold start?
  refine (yields_skipEndsWithin _ ha).bind fun a ha => ?_
  refine (yields_look ha).bind fun first _ => ?_
  split
  · exact .pure nofun
  refine (yields_directivesWithin _ false (show Within ts { a with handles := [] } from ha)).bind
    fun a ha => ?_
  refine (yields_look ha).bind fun t _ => ?_
  split
  · apply Yields.pure
    intro p hp
    cases hp
    exact ha.next
  · exact trivial

theorem yields_content (ha : Within ts a) : YieldsNodes ts a.content := by
  unfold content
  refine (yields_look ha).bind fun t _ => ?_
  split
  · exact .pure ha
  · exact (sound ts _).node ha

theorem yields_document? (ha : Within ts a) :
    Yields (OfTokens ts) (fun r => ∀ p ∈ r, Within ts p.2) a.document? := by
  unfold document?
  refine (yields_look ha).bind fun t _ => ?_
  have hsome {x : Except Problem Assembled} (hx : YieldsNodes ts x) :
      Yields (OfTokens ts) (fun r => ∀ p ∈ r, Within ts p.2) (do return some (← x)) :=
    Yields.bind hx fun r hr => .pure fun p hp => by
      cases hp
      exact hr
  split
  · refine (yields_start? ha).bind fun r hr => ?_
    split
    · exact hsome (yields_content (hr _ rfl))
    · exact .pure nofun
  · exact hsome ((sound ts _).node (show Within ts { a with handles := defaultHandles } from ha))

theorem yields_skipEnd (ha : Within ts a) :
    Yields (OfTokens ts) (Within ts) a.skipEnd := by
  unfold skipEnd
  refine (yields_look ha).bind fun t _ => ?_
  split
  · exact .pure ha.next
  · exact .pure ha

end Assembly

/-- When nodes are put together from tokens, a misfit is one of the tokens, or the nodes lie too
deep in one another. -/
theorem Graph.yields_ofTokens (ts : List Lexeme) :
    Yields (Assembly.OfTokens ts) (fun _ => True) (Graph.ofTokens ts) := by
  unfold Graph.ofTokens
  have hts : Assembly.Within ts { tokens := ts } := fun _ ht => ht
  refine (Assembly.yields_document? hts).bind fun r hr => ?_
  split
  · exact .pure trivial
  · refine (Assembly.yields_skipEnd (hr _ rfl)).bind fun a ha => ?_
    refine (Assembly.yields_start? ha).bind fun second _ => ?_
    split
    · exact .pure trivial
    · exact trivial

end Typeset.Yaml
