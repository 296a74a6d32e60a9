/-!
# Subscriptions

A subscription is a handle that takes a listener out of a channel once. A group holds other handles
and disposes them with itself; groups may share members, nest, and even hold themselves.

## Main definitions

* `Events.Board`: the listeners of every channel and the state of every handle
* `Events.Board.subscribe`, `Events.Board.group`, `Events.Board.extend`, `Events.Board.clear`
* `Events.Board.dispose`: a handle and all it holds, disposed
-/

namespace Typeset.Events

/-- The number of a handle, in the order in which handles are made. -/
abbrev Handle := Nat

/-- The number of a listener. -/
abbrev ListenerId := Nat

/-- What a live handle does when it is disposed. -/
inductive Hold (τ : Type) where
  /-- It takes a listener out of a channel. -/
  | listener (channel : τ) (id : ListenerId)
  /-- It disposes its members. -/
  | group (members : List Handle)
  deriving Repr

/-- The listeners of every channel, in the order in which they were added, and what each handle
holds; a disposed handle holds nothing. -/
structure Board (τ : Type) where
  listeners : τ → List ListenerId := fun _ => []
  handles : List (Option (Hold τ)) := []

namespace Board

variable {τ : Type}

/-- What a handle holds, while it is live. -/
def hold? (b : Board τ) (h : Handle) : Option (Hold τ) := (b.handles[h]?).join

/-- Whether a handle is disposed. -/
def isDisposed (b : Board τ) (h : Handle) : Bool := (b.hold? h).isNone

/-- The number of live handles. -/
def live (b : Board τ) : Nat := b.handles.countP Option.isSome

/-- The board with another hold behind a handle. -/
def setHold (b : Board τ) (h : Handle) (hold : Option (Hold τ)) : Board τ :=
  { b with handles := b.handles.set h hold }

/-- A new handle; it is the last one. -/
def add (b : Board τ) (hold : Option (Hold τ)) : Board τ × Handle :=
  ({ b with handles := b.handles ++ [hold] }, b.handles.length)

theorem live_setHold_none_le (b : Board τ) (h : Handle) : (b.setHold h none).live ≤ b.live := by
  simp only [live, setHold]
  generalize b.handles = hs
  induction hs generalizing h with
  | nil => simp
  | cons a hs ih =>
    cases h with
    | zero => cases a <;> simp
    | succ h =>
      have := ih h
      simp only [List.set_cons_succ, List.countP_cons]
      omega

variable [DecidableEq τ]

/-- The board with other listeners on one channel. -/
def setListeners (b : Board τ) (channel : τ) (ids : List ListenerId) : Board τ :=
  { b with listeners := fun c => if c = channel then ids else b.listeners c }

/-- A listener added to a channel, and the handle that takes it out again. -/
def subscribe (b : Board τ) (channel : τ) (id : ListenerId) : Board τ × Handle :=
  (b.setListeners channel (b.listeners channel ++ [id])).add (some (.listener channel id))

/-- A channel without listeners. Its handles stay live. -/
def clear (b : Board τ) (channel : τ) : Board τ := b.setListeners channel []

/-- A listener taken out of a channel: the first of its occurrences, if there is one. -/
def remove (b : Board τ) (channel : τ) (id : ListenerId) : Board τ :=
  b.setListeners channel ((b.listeners channel).erase id)

/-- The handle disposed, as far as `fuel` handles go: a live handle gives up what it holds and then
carries it out; the members of a group are disposed in order. -/
def disposeWithin : (fuel : Nat) → Board τ → Handle → Board τ
  | 0, b, _ => b
  | fuel + 1, b, h =>
    match b.hold? h with
    | none => b
    | some (.listener channel id) => (b.setHold h none).remove channel id
    | some (.group members) => members.foldl (disposeWithin fuel) (b.setHold h none)

/-- The handle disposed. Every handle that this reaches was live, so their number bounds the
work. -/
def dispose (b : Board τ) (h : Handle) : Board τ := disposeWithin b.live b h

/-- Handles disposed in order. -/
def disposeAll (b : Board τ) (hs : List Handle) : Board τ := hs.foldl dispose b

/-- A new group. -/
def group (b : Board τ) (members : List Handle) : Board τ × Handle := b.add (some (.group members))

/-- More members for a group. A disposed group disposes them at once. -/
def extend (b : Board τ) (h : Handle) (members : List Handle) : Board τ :=
  match b.hold? h with
  | some (.group old) => b.setHold h (some (.group (old ++ members)))
  | _ => b.disposeAll members

theorem live_remove (b : Board τ) (channel : τ) (id : ListenerId) :
    (b.remove channel id).live = b.live := rfl

theorem live_disposeWithin_le (fuel : Nat) (b : Board τ) (h : Handle) :
    (disposeWithin fuel b h).live ≤ b.live := by
  induction fuel generalizing b h with
  | zero => exact Nat.le_refl _
  | succ fuel ih =>
    have key (ms : List Handle) (c : Board τ) :
        (ms.foldl (disposeWithin fuel) c).live ≤ c.live := by
      induction ms generalizing c with
      | nil => exact Nat.le_refl _
      | cons m ms ihm => exact Nat.le_trans (ihm _) (ih c m)
    unfold disposeWithin
    split
    · exact Nat.le_refl _
    · rw [live_remove]
      exact live_setHold_none_le b h
    · exact Nat.le_trans (key _ _) (live_setHold_none_le b h)

end Board

end Typeset.Events
