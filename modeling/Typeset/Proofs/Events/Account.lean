import Mathlib.Logic.Relation
import Typeset.Events.Subscription

/-!
# Handles and listeners keep step

As long as no channel is cleared, a listener stands on a channel exactly as often as there are live
handles that hold it there. A handle never comes to hold another listener, and a disposed handle
stays disposed, so who is subscribed at some moment and has a live handle later was on the channel
all the time between.

Everything that happens to a board is a sequence of small turns, and both facts are checked turn by
turn.

## Main definitions

* `Events.Board.Turn`: a small change of a board that clears no channel
* `Events.Board.Accounted`: listeners and live handles agree
* `Events.Board.Holds`: a handle is live and holds a listener of a channel
* `Events.Board.holdersFrom`: the live handles of a listener from a number on

## Main results

* `Events.Board.dispose_turns`, `Events.Board.extend_turns`: these are sequences of turns
* `Events.Board.Turn.counts`: what a turn does to occurrences and live handles
* `Events.Board.Accounted.turns`: turns keep the account
* `Events.Board.Holds.of_live`: a handle that is live later holds its listener before
* `Events.Board.Accounted.mem_listeners`: a listener with a live handle is on its channel
-/

namespace Typeset.Events.Board

variable {τ : Type}

/-! ## What the handles hold -/

theorem isDisposed_iff {b : Board τ} {h : Handle} : b.isDisposed h = true ↔ b.hold? h = none :=
  Option.isNone_iff_eq_none

theorem lt_length_of_hold? {b : Board τ} {h : Handle} {hold : Hold τ} (hh : b.hold? h = some hold) :
    h < b.handles.length := by
  refine Nat.lt_of_not_ge fun hge => ?_
  rw [hold?, List.getElem?_eq_none hge] at hh
  cases hh

theorem getElem?_of_hold? {b : Board τ} {h : Handle} {hold : Hold τ} (hh : b.hold? h = some hold) :
    b.handles[h]? = some (some hold) := Option.join_eq_some_iff.mp hh

theorem hold?_add_of_lt (b : Board τ) (hold : Option (Hold τ)) {h : Handle}
    (hh : h < b.handles.length) : (b.add hold).1.hold? h = b.hold? h := by
  rw [hold?, hold?, add, List.getElem?_append_left hh]

@[simp] theorem hold?_add_self (b : Board τ) (hold : Option (Hold τ)) :
    (b.add hold).1.hold? b.handles.length = hold := by
  rw [hold?, add, List.getElem?_concat_length, Option.join_some]

theorem hold?_setHold_self (b : Board τ) (hold : Option (Hold τ)) {h : Handle}
    (hh : h < b.handles.length) : (b.setHold h hold).hold? h = hold := by
  rw [hold?, setHold, List.getElem?_set_self hh, Option.join_some]

theorem hold?_setHold_of_ne (b : Board τ) (hold : Option (Hold τ)) {h other : Handle}
    (hne : other ≠ h) : (b.setHold h hold).hold? other = b.hold? other := by
  rw [hold?, hold?, setHold, List.getElem?_set_ne hne.symm]

/-- A handle is live and holds a listener of a channel. -/
def Holds (b : Board τ) (h : Handle) (channel : τ) (id : ListenerId) : Prop :=
  b.hold? h = some (.listener channel id)

theorem Holds.isDisposed {b : Board τ} {h : Handle} {channel : τ} {id : ListenerId}
    (hb : b.Holds h channel id) : b.isDisposed h = false := by
  rw [Board.isDisposed, hb]
  rfl

variable [DecidableEq τ]

/-! ## Turns of a board -/

/-- A small change of a board that clears no channel. -/
inductive Turn : Board τ → Board τ → Prop where
  | subscribe (b : Board τ) (channel : τ) (id : ListenerId) : Turn b (b.subscribe channel id).1
  | bare (b : Board τ) : Turn b (b.add none).1
  | group (b : Board τ) (members : List Handle) : Turn b (b.group members).1
  /-- A live handle takes its listener out. -/
  | release {b : Board τ} {h : Handle} {channel : τ} {id : ListenerId}
    (hold : b.hold? h = some (.listener channel id)) : Turn b ((b.setHold h none).remove channel id)
  /-- A live group gives up its members, or gets other ones. -/
  | regroup {b : Board τ} {h : Handle} {members : List Handle}
    (hold : b.hold? h = some (.group members)) (members' : Option (List Handle)) :
    Turn b (b.setHold h (members'.map .group))

/-- A sequence of turns. -/
abbrev Turns : Board τ → Board τ → Prop := Relation.ReflTransGen Turn

/-- A group gives up its members, which are disposed one after another. -/
theorem disposeWithin_turns (fuel : Nat) (b : Board τ) (h : Handle) :
    Turns b (disposeWithin fuel b h) := by
  induction fuel generalizing b h with
  | zero => exact .refl
  | succ fuel ih =>
    unfold disposeWithin
    split
    · exact .refl
    · rename_i channel id hold
      exact .single (.release hold)
    · rename_i members hold
      refine List.foldlRecOn (motive := Turns b) _ _ (.single (.regroup hold none)) ?_
      exact fun b' hb' m _ => hb'.trans (ih b' m)

theorem dispose_turns (b : Board τ) (h : Handle) : Turns b (b.dispose h) :=
  disposeWithin_turns _ b h

theorem extend_turns (b : Board τ) (h : Handle) (members : List Handle) :
    Turns b (b.extend h members) := by
  unfold extend
  split
  · rename_i old hold
    exact .single (.regroup hold (some (old ++ members)))
  · exact List.foldlRecOn (motive := Turns b) _ _ .refl
      fun b' hb' m _ => hb'.trans (dispose_turns b' m)

/-! ## What turns leave of the handles -/

theorem holds_subscribe (b : Board τ) (channel : τ) (id : ListenerId) :
    (b.subscribe channel id).1.Holds b.handles.length channel id :=
  hold?_add_self (b.setListeners channel (b.listeners channel ++ [id])) _

/-- The handles there were are there still, and each holds what it held, or is disposed, or is a
group with other members. -/
theorem Turn.hold? {b b' : Board τ} (t : Turn b b') :
    b.handles.length ≤ b'.handles.length ∧ ∀ h < b.handles.length,
      b'.hold? h = b.hold? h ∨ b'.hold? h = none ∨
        ∃ members members', b.hold? h = some (.group members) ∧
          b'.hold? h = some (.group members') := by
  cases t with
  | subscribe channel id =>
    refine ⟨by simp [Board.subscribe, add, setListeners], fun h hh => .inl ?_⟩
    exact hold?_add_of_lt (b.setListeners channel _) _ hh
  | bare => exact ⟨by simp [add], fun h hh => .inl (hold?_add_of_lt b _ hh)⟩
  | group members => exact ⟨by simp [Board.group, add], fun h hh => .inl (hold?_add_of_lt b _ hh)⟩
  | @release h channel id hold =>
    refine ⟨by simp [remove, setListeners, setHold], fun other ho => ?_⟩
    by_cases hne : other = h
    · subst hne
      exact .inr (.inl (hold?_setHold_self b none ho))
    · exact .inl (hold?_setHold_of_ne b none hne)
  | @regroup h members hold members' =>
    refine ⟨by simp [setHold], fun other ho => ?_⟩
    by_cases hne : other = h
    · subst hne
      have hset := hold?_setHold_self b (members'.map .group) ho
      cases members' with
      | none => exact .inr (.inl hset)
      | some members' => exact .inr (.inr ⟨members, members', hold, hset⟩)
    · exact .inl (hold?_setHold_of_ne b _ hne)

theorem Turns.length_le {b b' : Board τ} (t : Turns b b') :
    b.handles.length ≤ b'.handles.length := by
  induction t with
  | refl => exact Nat.le_refl _
  | tail _ last ih => exact Nat.le_trans ih last.hold?.1

/-- A disposed handle stays disposed. -/
theorem Turns.isDisposed {b b' : Board τ} (t : Turns b b') {h : Handle}
    (hlt : h < b.handles.length) (hb : b.isDisposed h) : b'.isDisposed h := by
  induction t with
  | refl => exact hb
  | @tail mid b' ht last ih =>
    rcases last.hold?.2 h (Nat.lt_of_lt_of_le hlt (Turns.length_le ht)) with
      heq | hnone | ⟨_, _, hgroup, -⟩
    · rw [Board.isDisposed, heq]
      exact ih
    · rw [Board.isDisposed, hnone]
      rfl
    · rw [Board.isDisposed, hgroup] at ih
      cases ih

/-- A handle with a listener keeps it or is disposed. -/
theorem Holds.turns {b b' : Board τ} {h : Handle} {channel : τ} {id : ListenerId}
    (hb : b.Holds h channel id) (t : Turns b b') : b'.Holds h channel id ∨ b'.isDisposed h := by
  induction t with
  | refl => exact .inl hb
  | @tail mid b' ht last ih =>
    have hlt : h < mid.handles.length :=
      Nat.lt_of_lt_of_le (lt_length_of_hold? hb) (Turns.length_le ht)
    rcases ih with ih | ih
    · rcases last.hold?.2 h hlt with heq | hnone | ⟨_, _, hgroup, -⟩
      · exact .inl (heq.trans ih)
      · exact .inr (by rw [Board.isDisposed, hnone]; rfl)
      · rw [Holds, hgroup] at ih
        cases ih
    · exact .inr (Turns.isDisposed (.single last) hlt ih)

/-- A handle never comes to hold a listener that it did not hold at first. -/
theorem Holds.of_turns {b b' : Board τ} {h : Handle} {channel : τ} {id : ListenerId}
    (t : Turns b b') (hlt : h < b.handles.length) (hb' : b'.Holds h channel id) :
    b.Holds h channel id := by
  induction t with
  | refl => exact hb'
  | @tail mid b' path last ih =>
    refine ih ?_
    rcases last.hold?.2 h (Nat.lt_of_lt_of_le hlt (Turns.length_le path)) with
      heq | hnone | ⟨_, _, -, hgroup⟩
    · exact heq.symm.trans hb'
    · rw [Holds, hnone] at hb'
      cases hb'
    · rw [Holds, hgroup] at hb'
      cases hb'

/-- A handle that is live later holds its listener at every moment before. -/
theorem Holds.of_live {b b' b'' : Board τ} {h : Handle} {channel : τ} {id : ListenerId}
    (hb : b.Holds h channel id) (t : Turns b b') (t' : Turns b' b'')
    (hlive : b''.isDisposed h = false) : b'.Holds h channel id := by
  rcases hb.turns t with hb' | hdisposed
  · exact hb'
  · have hlt := Nat.lt_of_lt_of_le (lt_length_of_hold? hb) (Turns.length_le t)
    rw [Turns.isDisposed t' hlt hdisposed] at hlive
    cases hlive

/-! ## The account -/

/-- Whether a hold is of a listener on a channel. -/
def Hold.isOf (channel : τ) (id : ListenerId) : Option (Hold τ) → Bool
  | some (.listener c i) => c = channel ∧ i = id
  | _ => false

theorem Hold.isOf_iff {channel : τ} {id : ListenerId} {hold : Option (Hold τ)} :
    Hold.isOf channel id hold = true ↔ hold = some (.listener channel id) := by
  rcases hold with _ | ⟨c, i⟩ | members <;> simp [Hold.isOf]

/-- The number of live handles that hold a listener on a channel. -/
def holders (b : Board τ) (channel : τ) (id : ListenerId) : Nat :=
  b.handles.countP (Hold.isOf channel id)

/-- Every listener stands on a channel as often as live handles hold it there. -/
def Accounted (b : Board τ) : Prop :=
  ∀ channel id, (b.listeners channel).count id = b.holders channel id

theorem accounted_empty : Accounted ({} : Board τ) := fun _ _ => rfl

/-- The number of live handles from a number on that hold a listener on a channel. -/
def holdersFrom (b : Board τ) (since : Nat) (channel : τ) (id : ListenerId) : Nat :=
  (b.handles.drop since).countP (Hold.isOf channel id)

theorem holdersFrom_zero (b : Board τ) (channel : τ) (id : ListenerId) :
    b.holdersFrom 0 channel id = b.holders channel id := rfl

theorem holdersFrom_add (b : Board τ) (hold : Option (Hold τ)) {since : Nat}
    (hsince : since ≤ b.handles.length) (channel : τ) (id : ListenerId) :
    (b.add hold).1.holdersFrom since channel id =
      b.holdersFrom since channel id + if Hold.isOf channel id hold then 1 else 0 := by
  simp [holdersFrom, add, List.drop_append_of_le_length hsince, List.countP_append,
    List.countP_cons]

/-- What a handle held is taken from the account, and what it holds now is put there. Handles with
smaller numbers do not count. -/
theorem holdersFrom_setHold (b : Board τ) {h : Handle} {old : Hold τ} (hh : b.hold? h = some old)
    (hold : Option (Hold τ)) (since : Nat) (channel : τ) (id : ListenerId) :
    (b.setHold h hold).holdersFrom since channel id +
        (if since ≤ h ∧ Hold.isOf channel id (some old) then 1 else 0) =
      b.holdersFrom since channel id +
        if since ≤ h ∧ Hold.isOf channel id hold then 1 else 0 := by
  by_cases hle : since ≤ h
  · have hget : (b.handles.drop since)[h - since]? = some (some old) := by
      rw [List.getElem?_drop, Nat.add_sub_cancel' hle]
      exact getElem?_of_hold? hh
    obtain ⟨hlt, hget⟩ := List.getElem?_eq_some_iff.mp hget
    have hpos : (if Hold.isOf channel id (some old) then 1 else 0) ≤
        b.holdersFrom since channel id := by
      split
      · next hof => exact List.countP_pos_iff.mpr ⟨_, hget ▸ List.getElem_mem hlt, hof⟩
      · exact Nat.zero_le _
    have hset : (b.handles.set h hold).drop since =
        (b.handles.drop since).set (h - since) hold := by
      rw [List.drop_set, if_neg (Nat.not_lt.mpr hle)]
    simp only [holdersFrom, setHold, hset, List.countP_set hlt, hget, hle, true_and] at hpos ⊢
    omega
  · have hset : (b.handles.set h hold).drop since = b.handles.drop since := by
      rw [List.drop_set, if_pos (Nat.lt_of_not_le hle)]
    simp [holdersFrom, setHold, hset, hle]

theorem count_subscribe (b : Board τ) (channel c : τ) (id i : ListenerId) :
    ((b.subscribe channel id).1.listeners c).count i =
      (b.listeners c).count i + if channel = c ∧ id = i then 1 else 0 := by
  change (if c = channel then _ else _ : List ListenerId).count i = _
  by_cases hc : c = channel
  · subst hc
    simp [List.count_append, List.count_singleton]
  · simp [hc, Ne.symm hc]

theorem count_remove (b : Board τ) (channel c : τ) (id i : ListenerId) :
    ((b.remove channel id).listeners c).count i =
      (b.listeners c).count i - if channel = c ∧ id = i then 1 else 0 := by
  change (if c = channel then _ else _ : List ListenerId).count i = _
  by_cases hc : c = channel
  · subst hc
    simp [List.count_erase]
  · simp [hc, Ne.symm hc]

/-- What a turn does to the occurrences of a listener and to its live handles from a number on:
neither changes, or there is one more of each, or one handle is disposed and takes one occurrence
out, if there is any. -/
theorem Turn.counts {b b' : Board τ} {since : Nat} (t : Turn b b')
    (hsince : since ≤ b.handles.length) (channel : τ) (id : ListenerId) :
    ((b'.listeners channel).count id = (b.listeners channel).count id ∧
        b'.holdersFrom since channel id = b.holdersFrom since channel id) ∨
      ((b'.listeners channel).count id = (b.listeners channel).count id + 1 ∧
        b'.holdersFrom since channel id = b.holdersFrom since channel id + 1) ∨
      ∃ h, b.Holds h channel id ∧ b'.isDisposed h = true ∧
        (b'.listeners channel).count id = (b.listeners channel).count id - 1 ∧
        b'.holdersFrom since channel id + (if since ≤ h then 1 else 0) =
          b.holdersFrom since channel id := by
  cases t with
  | subscribe c i =>
    have hcount := count_subscribe b c channel i id
    have hfrom := holdersFrom_add (b.setListeners c (b.listeners c ++ [i]))
      (some (.listener c i)) hsince channel id
    simp only [Hold.isOf, decide_eq_true_eq] at hfrom
    by_cases heq : c = channel ∧ i = id
    · rw [if_pos heq] at hcount hfrom
      exact .inr (.inl ⟨hcount, hfrom⟩)
    · rw [if_neg heq] at hcount hfrom
      exact .inl ⟨hcount, hfrom⟩
  | bare => exact .inl ⟨rfl, by simp [holdersFrom_add b none hsince, Hold.isOf]⟩
  | group members =>
    exact .inl ⟨rfl, by simp [Board.group, holdersFrom_add b _ hsince, Hold.isOf]⟩
  | @release h c i hold =>
    have hcount := count_remove (b.setHold h none) c channel i id
    have hfrom := holdersFrom_setHold b hold none since channel id
    simp only [Hold.isOf, decide_eq_true_eq, Bool.false_eq_true, and_false, if_false,
      Nat.add_zero] at hfrom
    by_cases heq : c = channel ∧ i = id
    · obtain ⟨rfl, rfl⟩ := heq
      rw [if_pos ⟨rfl, rfl⟩] at hcount
      simp only [and_self, and_true] at hfrom
      refine .inr (.inr ⟨h, hold, ?_, hcount, hfrom⟩)
      exact isDisposed_iff.mpr (hold?_setHold_self b none (lt_length_of_hold? hold))
    · rw [if_neg heq] at hcount
      rw [if_neg (fun h => heq h.2)] at hfrom
      exact .inl ⟨hcount, hfrom⟩
  | @regroup h members hold members' =>
    have hfrom := holdersFrom_setHold b hold (members'.map .group) since channel id
    refine .inl ⟨rfl, ?_⟩
    cases members' <;> simpa [Hold.isOf] using hfrom

theorem Accounted.turn {b b' : Board τ} (hb : b.Accounted) (t : Turn b b') : b'.Accounted := by
  intro c i
  have hci := hb c i
  have hcounts := t.counts (Nat.zero_le _) c i
  simp only [holdersFrom_zero, Nat.zero_le, if_true] at hcounts
  rcases hcounts with ⟨hc, hf⟩ | ⟨hc, hf⟩ | ⟨h, -, -, hc, hf⟩ <;> omega

theorem Accounted.turns {b b' : Board τ} (hb : b.Accounted) (t : Turns b b') : b'.Accounted := by
  induction t with
  | refl => exact hb
  | tail _ last ih => exact ih.turn last

/-- A listener with a live handle is on its channel. -/
theorem Accounted.mem_listeners {b : Board τ} (hb : b.Accounted) {h : Handle} {channel : τ}
    {id : ListenerId} (hh : b.Holds h channel id) : id ∈ b.listeners channel := by
  have hmem : some (.listener channel id) ∈ b.handles :=
    List.mem_of_getElem? (getElem?_of_hold? hh)
  rw [← List.count_pos_iff, hb channel id]
  exact List.countP_pos_iff.mpr ⟨_, hmem, Hold.isOf_iff.mpr rfl⟩

end Typeset.Events.Board
