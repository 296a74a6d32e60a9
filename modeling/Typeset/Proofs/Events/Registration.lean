import Typeset.Proofs.Events.Emission
import Typeset.Proofs.Events.Lasting

/-!
# Registrations and their handles

A listener may be subscribed to a channel several times, each time with a handle of its own, and a
disposed handle takes out the first occurrence of its listener, whichever handle that came with. So
handles and occurrences can only be compared by their numbers. From the empty channel on, and as
long as it is not cleared, the numbers are the same, and an emission calls a listener once for each
of its live handles.

When the channel is cleared, its handles stay live. Such a stale handle takes out an occurrence that
came with a later one if its listener is subscribed again. What remains true is told from any moment
at which a listener is not on the channel: it has at most as many occurrences as live handles
obtained since, and it lacks at most as many as older handles of it were disposed since.

## Main definitions

* `Events.Board.Hold.isOn`: a live handle of any listener
* `Events.Board.holdersBefore`: the live handles of a listener that are older than others

## Main results

* `Events.Board.Accounted.length_listeners`: as many listeners as live handles
* `Events.Board.excess_le`: without clearing, live handles do not come to outnumber occurrences
* `Events.Channel.listeners_count_live_handles`: a channel that is not cleared
* `Events.Channel.listeners_since_cleared`: a channel after it was cleared
-/

namespace Typeset.Events

namespace Board

variable {τ : Type} [DecidableEq τ]

/-! ## As many listeners as live handles -/

/-- Whether a hold is of some listener on a channel. -/
def Hold.isOn (channel : τ) : Option (Hold τ) → Bool
  | some (.listener c _) => c = channel
  | _ => false

/-- The listener that a hold is of, if it is on a channel. -/
def Hold.listenerOn? (channel : τ) : Option (Hold τ) → Option ListenerId
  | some (.listener c id) => if c = channel then some id else none
  | _ => none

theorem Hold.isSome_listenerOn? (channel : τ) (hold : Option (Hold τ)) :
    (Hold.listenerOn? channel hold).isSome = Hold.isOn channel hold := by
  rcases hold with _ | ⟨c, id⟩ | members
  · rfl
  · by_cases hc : c = channel <;> simp [Hold.listenerOn?, Hold.isOn, hc]
  · rfl

theorem Hold.listenerOn?_beq (channel : τ) (id : ListenerId) (hold : Option (Hold τ)) :
    (Hold.listenerOn? channel hold == some id) = Hold.isOf channel id hold := by
  rcases hold with _ | ⟨c, i⟩ | members
  · rfl
  · by_cases hc : c = channel <;> by_cases hi : i = id <;>
      simp [Hold.listenerOn?, Hold.isOf, hc, hi]
  · rfl

/-- The listeners of a channel are those of the live handles, in some order. -/
theorem Accounted.perm {b : Board τ} (hb : b.Accounted) (channel : τ) :
    (b.listeners channel).Perm (b.handles.filterMap (Hold.listenerOn? channel)) := by
  refine List.perm_iff_count.mpr fun id => ?_
  rw [hb channel id, List.count_filterMap, holders]
  exact List.countP_congr fun hold _ => by rw [Hold.listenerOn?_beq]

theorem Accounted.length_listeners {b : Board τ} (hb : b.Accounted) (channel : τ) :
    (b.listeners channel).length = b.handles.countP (Hold.isOn channel) := by
  rw [(hb.perm channel).length_eq, List.length_filterMap_eq_countP]
  exact List.countP_congr fun hold _ => by rw [Hold.isSome_listenerOn?]

/-! ## Live handles and occurrences -/

/-- The number of live handles below a number that hold a listener on a channel. -/
def holdersBefore (b : Board τ) (since : Nat) (channel : τ) (id : ListenerId) : Nat :=
  (b.handles.take since).countP (Hold.isOf channel id)

theorem holdersBefore_add_holdersFrom (b : Board τ) (since : Nat) (channel : τ)
    (id : ListenerId) :
    b.holdersBefore since channel id + b.holdersFrom since channel id = b.holders channel id := by
  rw [holdersBefore, holdersFrom, ← List.countP_append, List.take_append_drop, holders]

variable {b b' : Board τ} {channel : τ} {id : ListenerId} {since : Nat}

theorem holdersBefore_length : b.holdersBefore b.handles.length channel id =
    b.holders channel id := by
  rw [holdersBefore, List.take_length, holders]

theorem holdersFrom_length : b.holdersFrom b.handles.length channel id = 0 := by
  rw [holdersFrom, List.drop_length, List.countP_nil]

/-- A live handle with a listener is counted. -/
theorem holdersFrom_pos {h : Handle} (hb : b.Holds h channel id) (hsince : since ≤ h) :
    0 < b.holdersFrom since channel id := by
  refine List.countP_pos_iff.mpr ⟨some (.listener channel id), ?_, Hold.isOf_iff.mpr rfl⟩
  refine List.mem_iff_getElem?.mpr ⟨h - since, ?_⟩
  rw [List.getElem?_drop, Nat.add_sub_cancel' hsince]
  exact getElem?_of_hold? hb

/-- Without clearing, a listener does not get more occurrences than it has live handles obtained
since it was not on the channel. Both are zero at first, and a handle that is disposed takes an
occurrence out, if there is any. -/
theorem count_le_holdersFrom (t : Turns b b') (hoff : id ∉ b.listeners channel) :
    (b'.listeners channel).count id ≤ b'.holdersFrom b.handles.length channel id := by
  induction t with
  | refl => rw [List.count_eq_zero_of_not_mem hoff]; exact Nat.zero_le _
  | tail path last ih =>
    rcases last.counts (Turns.length_le path) channel id with
      ⟨hc, hf⟩ | ⟨hc, hf⟩ | ⟨h, -, -, hc, hf⟩
    · omega
    · omega
    · split at hf <;> omega

/-- Without clearing, live handles do not come to outnumber the occurrences of a listener any
further. A handle that is disposed takes one occurrence out at most. -/
theorem excess_le (t : Turns b b') (channel : τ) (id : ListenerId) :
    b'.holders channel id + (b.listeners channel).count id ≤
      (b'.listeners channel).count id + b.holders channel id := by
  induction t with
  | refl => exact Nat.le_of_eq (Nat.add_comm _ _)
  | tail path last ih =>
    have hcounts := last.counts (Nat.zero_le _) channel id
    simp only [holdersFrom_zero, Nat.zero_le, if_true] at hcounts
    rcases hcounts with ⟨hc, hf⟩ | ⟨hc, hf⟩ | ⟨h, -, -, hc, hf⟩ <;> omega

/-- As long as no older handle of it is disposed, a listener has as many occurrences as live handles
obtained since it was not on the channel. An older handle that is live at the end was live all the
time. -/
theorem count_eq_holdersFrom (t : Turns b b') (hoff : id ∉ b.listeners channel)
    (older : ∀ h < b.handles.length, b.Holds h channel id → b'.isDisposed h = false) :
    (b'.listeners channel).count id = b'.holdersFrom b.handles.length channel id := by
  induction t with
  | refl => rw [List.count_eq_zero_of_not_mem hoff, holdersFrom_length]
  | @tail mid b' path last ih =>
    have ih := ih fun h hlt hb => (hb.of_live path (.single last) (older h hlt hb)).isDisposed
    rcases last.counts (Turns.length_le path) channel id with
      ⟨hc, hf⟩ | ⟨hc, hf⟩ | ⟨h, hmid, hdisposed, hc, hf⟩
    · omega
    · omega
    · have hle : b.handles.length ≤ h := by
        refine Nat.le_of_not_lt fun hlt => ?_
        rw [older h hlt (hmid.of_turns path hlt)] at hdisposed
        cases hdisposed
      rw [if_pos hle] at hf
      omega

@[simp] theorem listeners_clear (b : Board τ) (channel : τ) :
    (b.clear channel).listeners channel = [] := if_pos rfl

/-- The handle of a registration holds its listener as long as it is live, and no other one ever. -/
theorem holds_subscribe_iff (b : Board τ) (c : τ) (i : ListenerId)
    (t : Turns (b.subscribe c i).1 b') :
    b'.Holds b.handles.length channel id ↔
      b'.isDisposed b.handles.length = false ∧ c = channel ∧ i = id := by
  have hold := holds_subscribe b c i
  have hlt := lt_length_of_hold? hold
  constructor
  · intro hb'
    have hb := hb'.of_turns t hlt
    rw [Holds, hold] at hb
    cases hb
    exact ⟨hb'.isDisposed, rfl, rfl⟩
  · rintro ⟨hlive, rfl, rfl⟩
    exact hold.of_live t .refl hlive

end Board

namespace Channel

variable {π ρ : Type}

theorem spares_of_ne_clear {op : Operation π} (hop : op ≠ .clear) : (machine π).Spares op := by
  cases op with
  | emit payload => exact fun _ _ he => ⟨(), payload, List.mem_singleton.mp he⟩
  | clear => exact absurd rfl hop

/-- **On a channel that nobody clears, registrations and live handles keep step.** Its owner and its
listeners, while they are called, may subscribe a listener any number of times, dispose handles and
groups of them any number of times, and emit. At every moment each listener stands on the channel as
often as there are live handles for it, a live handle being for the listener that was subscribed
with it, so the channel is as long as there are live handles. An emission calls a listener as often
as it had live handles when the emission began. -/
theorem listeners_count_live_handles {actions : List (Action (Operation π) Unit π ρ)}
    (hactions : ∀ a ∈ actions, a.Confined fun op => op ≠ .clear) :
    let start : Hub Unit (Operation π) Unit π ρ := { state := () }
    let final := start.runEach (machine π) actions
    Hub.Lasts (machine π) start final ∧
      (∀ moment, Hub.Lasts (machine π) start moment →
        (∀ id, (moment.board.listeners ()).count id = moment.board.holders () id) ∧
        (moment.board.listeners ()).length = moment.board.handles.countP (Board.Hold.isOn ()) ∧
        ∀ name id later, Hub.Lasts (machine π) (moment.subscribe name () id) later → ∀ i,
          later.board.Holds moment.board.handles.length () i ↔
            later.board.isDisposed moment.board.handles.length = false ∧ id = i) ∧
      ∀ n < final.emissions, ∃ moment payload cs,
        Hub.Lasts (machine π) start moment ∧
        Hub.Lasts (machine π) (moment.begun () payload) final ∧ moment.emissions = n ∧
        ofEmission n final.history = transcript n () payload cs ∧
        ∀ id, (cs.map Prod.fst).count id = moment.board.holders () id := by
  intro start final
  have hstart : start.Confined fun op => op ≠ .clear := by simp [Hub.Confined, start]
  have path : Hub.Lasts (machine π) start final :=
    Hub.runEach_lasts (fun _ => spares_of_ne_clear) hactions hstart
  have haccounted {moment : Hub Unit (Operation π) Unit π ρ}
      (h : Hub.Lasts (machine π) start moment) : moment.board.Accounted :=
    Board.accounted_empty.turns h.turns
  refine ⟨path, fun moment h => ⟨haccounted h (), (haccounted h).length_listeners (), ?_⟩,
    fun n hn => ?_⟩
  · intro name id later hlater i
    rw [Board.holds_subscribe_iff moment.board () id hlater.turns]
    simp
  · obtain ⟨is, moment, ⟨⟩, payload, cs, hh, hbefore, hafter, he, hcs, hof⟩ :=
      (Hub.runEach_extends (machine π) actions start).exists_moment (fun h => h.1) path
        (Nat.zero_le n) hn
    have hnil : start.history = [] := rfl
    rw [hnil, List.nil_append] at hh
    refine ⟨moment, payload, cs, hbefore, hafter, he, hh ▸ hof, fun id => ?_⟩
    rw [hcs]
    exact haccounted hbefore () id

/-- A listener subscribes itself again while it is called, emits, and disposes the same handle
twice. -/
theorem listeners_count_live_handles_of_itself :
    let actions : List (Action (Operation Nat) Unit Nat Unit) :=
      [.listen "a" () (fun _ => [])
          [(1, .listenAgain "b" () "a"), (1, .listenAgain "c" () "a"), (1, .operate (.emit 2)),
            (1, .dispose "a"), (1, .dispose "a")],
        .operate (.emit 1), .operate (.emit 3)]
    let hub : Hub Unit (Operation Nat) Unit Nat Unit :=
      Hub.runEach (machine Nat) actions { state := () }
    (∀ a ∈ actions, a.Confined fun op => op ≠ .clear) ∧
      hub.board.listeners () = [0, 0] ∧ hub.board.holders () 0 = 2 ∧ hub.emissions = 3 ∧
      (hub.board.listeners ()).length = hub.board.handles.countP (Board.Hold.isOn ()) ∧
      ∃ payload cs, ofEmission 1 hub.history = transcript 1 () payload cs := by
  intro actions hub
  have hactions : ∀ a ∈ actions, a.Confined fun op => op ≠ .clear := by
    simp [actions, Action.Confined, Action.PlanConfined]
  have hemissions : hub.emissions = 3 := by decide +kernel
  obtain ⟨path, hmoments, hemitted⟩ := listeners_count_live_handles hactions
  obtain ⟨hcount, hlength, -⟩ := hmoments hub path
  have htwo : hub.board.listeners () = [0, 0] := by decide +kernel
  have hholders : hub.board.holders () 0 = 2 := by rw [← hcount, htwo]; rfl
  obtain ⟨-, payload, cs, -, -, -, hof, -⟩ := hemitted 1 (hemissions ▸ by decide)
  exact ⟨hactions, htwo, hholders, hemissions, hlength, payload, cs, hof⟩

/-- **A registration lasts until its own handle is disposed, unless an older handle of its listener
is.** Every moment of a run comes after the last clearing of the channel, or after the beginning.
From any moment on at which a listener is not on the channel, and as long as it is not cleared, the
listener stands there at most as often as it has live handles obtained since, and is missing at most
as often as older handles of it were disposed since. If there were none, it stands there exactly as
often as it has live handles obtained since, and every one of them keeps it there. -/
theorem listeners_since_cleared (actions : List (Action (Operation π) Unit π ρ)) :
    let start : Hub Unit (Operation π) Unit π ρ := { state := () }
    Hub.Reaches (machine π) start (start.runEach (machine π) actions) ∧
      (∀ moment, Hub.Reaches (machine π) start moment →
        ∃ base, Hub.Lasts (machine π) base moment ∧ base.board.listeners () = [] ∧
          (base = start ∨ ∃ hub, Hub.Reaches (machine π) start hub ∧
            base = { hub with board := hub.board.clear () })) ∧
      ∀ base moment : Hub Unit (Operation π) Unit π ρ, Hub.Lasts (machine π) base moment →
        ∀ id, id ∉ base.board.listeners () →
          let since := base.board.handles.length
          let count := (moment.board.listeners ()).count id
          count ≤ moment.board.holdersFrom since () id ∧
            moment.board.holdersFrom since () id + moment.board.holdersBefore since () id ≤
              count + base.board.holdersBefore since () id ∧
            ((∀ h < since, base.board.Holds h () id → moment.board.isDisposed h = false) →
              count = moment.board.holdersFrom since () id ∧
                ∀ h, since ≤ h → moment.board.Holds h () id →
                  id ∈ moment.board.listeners ()) := by
  intro start
  refine ⟨Hub.runEach_reaches _ actions start, fun moment run => ?_,
    fun base moment path id hoff => ?_⟩
  · rcases run.lasts_or_cleared with h | ⟨hub, ⟨⟩, hhub, h⟩
    · exact ⟨start, h, rfl, .inl rfl⟩
    · exact ⟨_, h, Board.listeners_clear hub.board (), .inr ⟨hub, hhub, rfl⟩⟩
  · intro since count
    refine ⟨Board.count_le_holdersFrom path.turns hoff, ?_, fun older => ?_⟩
    · have hle := Board.excess_le path.turns () id
      rw [List.count_eq_zero_of_not_mem hoff, Nat.add_zero,
        ← Board.holdersBefore_add_holdersFrom moment.board since,
        ← Board.holdersBefore_length (b := base.board)] at hle
      rw [Nat.add_comm]
      exact hle
    · have heq := Board.count_eq_holdersFrom path.turns hoff older
      refine ⟨heq, fun h hsince hold => List.count_pos_iff.mp ?_⟩
      rw [heq]
      exact Board.holdersFrom_pos hold hsince

/-- The handle from before the clearing is disposed first, and then the listener is subscribed twice
more. The later one of its registrations stays until its own handle is disposed. -/
theorem listeners_since_cleared_of_early_disposal :
    let base : Hub Unit (Operation Nat) Unit Nat Unit := Hub.runEach (machine Nat)
      [.listen "a" () (fun _ => []) [], .operate .clear, .dispose "a"] { state := () }
    let actions : List (Action (Operation Nat) Unit Nat Unit) :=
      [.listenAgain "b" () "a", .listenAgain "c" () "a", .dispose "b", .dispose "a"]
    let hub := base.runEach (machine Nat) actions
    (Hub.Lasts (machine Nat) base hub ∧ 0 ∉ base.board.listeners () ∧
      ∀ h < base.board.handles.length, base.board.Holds h () 0 →
        hub.board.isDisposed h = false) ∧
      hub.board.isDisposed 1 = true ∧ hub.board.Holds 2 () 0 ∧ 0 ∈ hub.board.listeners () := by
  intro base actions hub
  have hplans : ∀ n ∈ base.listeners.map (·.plan.length), n = 0 := by decide +kernel
  have hbase : base.Confined fun op => op ≠ .clear := fun l hl => by
    rw [List.length_eq_zero_iff.mp (hplans _ (List.mem_map_of_mem hl))]
    trivial
  have hactions : ∀ a ∈ actions, a.Confined fun op => op ≠ .clear := by
    simp [actions, Action.Confined]
  have path : Hub.Lasts (machine Nat) base hub :=
    Hub.runEach_lasts (fun _ => spares_of_ne_clear) hactions hbase
  have hoff : 0 ∉ base.board.listeners () := by decide +kernel
  have hone : base.board.handles.length = 1 := by decide +kernel
  have hdead : base.board.isDisposed 0 = true := by decide +kernel
  have older : ∀ h < base.board.handles.length, base.board.Holds h () 0 →
      hub.board.isDisposed h = false := by
    intro h hlt hold
    obtain rfl : h = 0 := by omega
    rw [hold.isDisposed] at hdead
    cases hdead
  have hhold : hub.board.Holds 2 () 0 := Board.Hold.isOf_iff.mp (by decide +kernel)
  obtain ⟨-, -, hsince⟩ := listeners_since_cleared (ρ := Unit) actions
  obtain ⟨-, -, hkept⟩ := hsince base hub path 0 hoff
  exact ⟨⟨path, hoff, older⟩, by decide +kernel, hhold,
    (hkept older).2 2 (hone ▸ by decide) hhold⟩

/-- A listener is subscribed, the channel is cleared, and the listener is subscribed once more. The
handle from before the clearing takes the new registration out, and its own handle is live. -/
theorem removed_by_stale_handle :
    let hub : Hub Unit (Operation Nat) Unit Nat Unit := Hub.runEach (machine Nat)
      [.listen "a" () (fun _ => []) [], .operate .clear, .listenAgain "b" () "a", .dispose "a"]
      { state := () }
    hub.board.isDisposed 0 = true ∧ hub.board.isDisposed 1 = false ∧
      hub.board.listeners () = [] ∧ hub.board.holdersFrom 1 () 0 = 1 := by
  decide +kernel

end Channel

end Typeset.Events
