import Typeset.Events.Channel
import Typeset.Proofs.Events.Move

/-!
# Emissions inside one another

While an emission calls its listeners they may emit as well, so the incidents of an emission are
mixed with those of the emissions inside it. Emissions are numbered, and the incidents of one
number, taken out of the history, are the emission as it would be told alone: it begins, calls the
listeners that its channel had at that moment, one after another, and ends. What the listeners did
to the channel meanwhile does not show.

The proof follows the nesting. Between two moments of a hub there lies a stretch of its history, in
which the emissions that were open before go on, and all that began are complete.

## Main definitions

* `Events.ofEmission`: the incidents of one emission
* `Events.transcript`: an emission told alone
* `Events.Stretch`: the history between two moments
* `Events.Hub.Extends`: a hub at a later moment

## Main results

* `Events.Stretch.append`, `Events.Stretch.close`: stretches one behind another, and around
  another
* `Events.Hub.run_extends`: every action extends the history by a stretch
* `Events.Channel.emit_reaches_audience`: what an emission on a channel does
-/

namespace Typeset.Events

variable {σ ο τ π ρ : Type}

/-! ## The incidents of an emission -/

namespace Incident

/-- The emission that an incident is part of. -/
def emission? : Incident τ π ρ → Option Nat
  | begun n _ _ _ => some n
  | called n _ _ => some n
  | left n _ _ => some n
  | ended n => some n
  | _ => none

/-- Whether a listener failed, or its failure was put on record. -/
def isFailure : Incident τ π ρ → Bool
  | left _ _ (some _) => true
  | fault _ _ => true
  | _ => false

end Incident

/-- The incidents of one emission. -/
def ofEmission (n : Nat) (is : List (Incident τ π ρ)) : List (Incident τ π ρ) :=
  is.filter fun i => i.emission? == some n

/-- The calls that an emission made, each with the failure of the listener if it failed. -/
def calls (n : Nat) (payload : π) (cs : List (ListenerId × Option Fault)) :
    List (Incident τ π ρ) :=
  cs.flatMap fun c => [.called n c.1 payload, .left n c.1 c.2]

/-- An emission told alone. Its audience is called in order. -/
def transcript (n : Nat) (channel : τ) (payload : π) (cs : List (ListenerId × Option Fault)) :
    List (Incident τ π ρ) :=
  .begun n channel payload (cs.map Prod.fst) :: (calls n payload cs ++ [.ended n])

/-- Every failure of a listener is put on record once, before anybody else fails. -/
def Settled (is : List (Incident τ π ρ)) : Prop :=
  ∃ fs : List (Nat × ListenerId × τ × Fault), is.filter Incident.isFailure =
    fs.flatMap fun (n, id, channel, f) => [.left n id (some f), .fault channel f]

@[simp] theorem ofEmission_append (n : Nat) (is js : List (Incident τ π ρ)) :
    ofEmission n (is ++ js) = ofEmission n is ++ ofEmission n js := List.filter_append _ _

theorem ofEmission_cons (n : Nat) (i : Incident τ π ρ) (is : List (Incident τ π ρ)) :
    ofEmission n (i :: is) = ofEmission n [i] ++ ofEmission n is :=
  ofEmission_append n [i] is

theorem ofEmission_eq_nil {n : Nat} {is : List (Incident τ π ρ)}
    (h : ∀ i ∈ is, i.emission? ≠ some n) : ofEmission n is = [] := by
  refine List.filter_eq_nil_iff.mpr fun i hi => ?_
  rw [beq_iff_eq]
  exact h i hi

theorem ofEmission_eq_self {n : Nat} {is : List (Incident τ π ρ)}
    (h : ∀ i ∈ is, i.emission? = some n) : ofEmission n is = is := by
  refine List.filter_eq_self.mpr fun i hi => ?_
  rw [beq_iff_eq]
  exact h i hi

theorem ofEmission_singleton_self {n : Nat} {i : Incident τ π ρ} (h : i.emission? = some n) :
    ofEmission n [i] = [i] :=
  ofEmission_eq_self fun _ hj => List.mem_singleton.mp hj ▸ h

theorem ofEmission_singleton_ne {n : Nat} {i : Incident τ π ρ} (h : i.emission? ≠ some n) :
    ofEmission n [i] = [] :=
  ofEmission_eq_nil fun _ hj => List.mem_singleton.mp hj ▸ h

theorem emission?_of_mem_calls {n : Nat} {payload : π} {cs : List (ListenerId × Option Fault)}
    {i : Incident τ π ρ} (h : i ∈ calls n payload cs) : i.emission? = some n := by
  obtain ⟨c, -, hi⟩ := List.mem_flatMap.mp h
  obtain rfl | rfl : i = .called n c.1 payload ∨ i = .left n c.1 c.2 := by simpa using hi
  · rfl
  · rfl

theorem ofEmission_calls (n : Nat) (payload : π) (cs : List (ListenerId × Option Fault)) :
    ofEmission n (calls n payload cs : List (Incident τ π ρ)) = calls n payload cs :=
  ofEmission_eq_self fun _ => emission?_of_mem_calls

theorem ofEmission_calls_ne {n k : Nat} (hk : k ≠ n) (payload : π)
    (cs : List (ListenerId × Option Fault)) :
    ofEmission k (calls n payload cs : List (Incident τ π ρ)) = [] := by
  refine ofEmission_eq_nil fun i hi he => hk ?_
  rw [emission?_of_mem_calls hi] at he
  exact (Option.some.inj he).symm

theorem calls_append (n : Nat) (payload : π) (cs ds : List (ListenerId × Option Fault)) :
    (calls n payload (cs ++ ds) : List (Incident τ π ρ)) =
      calls n payload cs ++ calls n payload ds := List.flatMap_append

/-! ## Failures on record -/

theorem settled_of_no_failure {is : List (Incident τ π ρ)} (h : ∀ i ∈ is, i.isFailure = false) :
    Settled is := by
  refine ⟨[], List.filter_eq_nil_iff.mpr fun i hi => ?_⟩
  rw [h i hi]
  exact Bool.false_ne_true

theorem settled_pair (n : Nat) (id : ListenerId) (channel : τ) (f : Fault) :
    Settled [(.left n id (some f) : Incident τ π ρ), .fault channel f] :=
  ⟨[(n, id, channel, f)], rfl⟩

theorem Settled.append {is js : List (Incident τ π ρ)} (h₁ : Settled is) (h₂ : Settled js) :
    Settled (is ++ js) := by
  obtain ⟨fs, hfs⟩ := h₁
  obtain ⟨gs, hgs⟩ := h₂
  exact ⟨fs ++ gs, by rw [List.filter_append, hfs, hgs, List.flatMap_append]⟩

/-! ## Stretches of a history -/

/-- The incidents `is` between two moments, at which there had been `lo` and `hi` emissions. The
emissions before do only what `own` tells of them, and those between are told to their end. -/
structure Stretch (lo hi : Nat) (own is : List (Incident τ π ρ)) : Prop where
  le : lo ≤ hi
  below : ∀ n, n < lo → ofEmission n is = ofEmission n own
  within : ∀ n, lo ≤ n → n < hi →
    ∃ channel payload cs, ofEmission n is = transcript n channel payload cs
  above : ∀ n, hi ≤ n → ofEmission n is = []
  settled : Settled is

namespace Stretch

variable {lo mid hi : Nat} {own own₁ own₂ is is₁ is₂ : List (Incident τ π ρ)}

/-- No emission begins. -/
theorem of_open (h : ∀ i ∈ is, ∀ n, i.emission? = some n → n < lo)
    (hs : Settled is) : Stretch lo lo is is where
  le := Nat.le_refl lo
  below _ _ := rfl
  within _ hlo hhi := absurd hhi (Nat.not_lt.mpr hlo)
  above n hn := ofEmission_eq_nil fun i hi he => Nat.not_lt.mpr hn (h i hi n he)
  settled := hs

theorem congr (h : Stretch lo hi own₁ is)
    (hown : ∀ n, n < lo → ofEmission n own₁ = ofEmission n own₂) : Stretch lo hi own₂ is :=
  { h with below := fun n hn => (h.below n hn).trans (hown n hn) }

/-- Two stretches one behind the other. What is told of the emissions before is told of those before
both. An emission of the first stretch is told to its end there, and one of the second begins behind
it. -/
theorem append (h₁ : Stretch lo mid own₁ is₁) (h₂ : Stretch mid hi own₂ is₂)
    (hown : ∀ n, lo ≤ n → ofEmission n own₂ = []) :
    Stretch lo hi (own₁ ++ own₂) (is₁ ++ is₂) where
  le := Nat.le_trans h₁.le h₂.le
  below n hn := by
    rw [ofEmission_append, ofEmission_append, h₁.below n hn,
      h₂.below n (Nat.lt_of_lt_of_le hn h₁.le)]
  within n hlo hhi := by
    rcases Nat.lt_or_ge n mid with hmid | hmid
    · obtain ⟨channel, payload, cs, he⟩ := h₁.within n hlo hmid
      refine ⟨channel, payload, cs, ?_⟩
      rw [ofEmission_append, he, h₂.below n hmid, hown n hlo, List.append_nil]
    · obtain ⟨channel, payload, cs, he⟩ := h₂.within n hmid hhi
      refine ⟨channel, payload, cs, ?_⟩
      rw [ofEmission_append, h₁.above n hmid, he, List.nil_append]
  above n hn := by
    rw [ofEmission_append, h₁.above n (Nat.le_trans h₂.le hn), h₂.above n hn, List.nil_append]
  settled := h₁.settled.append h₂.settled

/-- The incidents of an emission around those that happen while it calls its listeners. -/
theorem ofEmission_close {n : Nat} {payload : π} {cs : List (ListenerId × Option Fault)}
    (h : Stretch (n + 1) hi (calls n payload cs) is) (channel : τ) :
    ofEmission n (.begun n channel payload (cs.map Prod.fst) :: (is ++ [.ended n])) =
      transcript n channel payload cs := by
  rw [ofEmission_cons, ofEmission_append, ofEmission_singleton_self rfl,
    ofEmission_singleton_self rfl, h.below n (Nat.lt_succ_self n), ofEmission_calls]
  rfl

/-- The incidents of the other emissions. -/
theorem ofEmission_close_ne {n k : Nat} (hk : k ≠ n) (channel : τ) (payload : π)
    (audience : List ListenerId) :
    ofEmission k (.begun n channel payload audience :: (is ++ [.ended n])) = ofEmission k is := by
  have hne {i : Incident τ π ρ} (hi : i.emission? = some n) : ofEmission k [i] = [] :=
    ofEmission_singleton_ne fun h => hk (Option.some.inj (h.symm.trans hi))
  rw [ofEmission_cons, ofEmission_append, hne rfl, hne rfl, List.nil_append, List.append_nil]

/-- An emission that ends was open while its listeners were called, and leaves nothing open. -/
theorem close {n : Nat} {payload : π} {cs : List (ListenerId × Option Fault)}
    (h : Stretch (n + 1) hi (calls n payload cs) is) (channel : τ) :
    Stretch n hi [] (.begun n channel payload (cs.map Prod.fst) :: (is ++ [.ended n])) where
  le := Nat.le_of_succ_le h.le
  below k hk := by
    rw [ofEmission_close_ne (Nat.ne_of_lt hk), h.below k (Nat.lt_succ_of_lt hk),
      ofEmission_calls_ne (Nat.ne_of_lt hk)]
    rfl
  within k hlo hhi := by
    rcases Nat.eq_or_lt_of_le hlo with rfl | hlt
    · exact ⟨channel, payload, cs, h.ofEmission_close channel⟩
    · rw [ofEmission_close_ne (Nat.ne_of_gt hlt)]
      exact h.within k hlt hhi
  above k hk := by
    rw [ofEmission_close_ne (Nat.ne_of_gt (Nat.lt_of_lt_of_le h.le hk))]
    exact h.above k hk
  settled := by
    have hbegun : Settled [(.begun n channel payload (cs.map Prod.fst) : Incident τ π ρ)] :=
      ⟨[], rfl⟩
    have hended : Settled [(.ended n : Incident τ π ρ)] := ⟨[], rfl⟩
    exact hbegun.append (h.settled.append hended)

end Stretch

namespace Hub

/-! ## Later moments of a hub -/

/-- A hub at a later moment: a stretch of history lies between, in which the emissions that were
open go on as `own` tells. -/
def Extends (own : List (Incident τ π ρ)) (hub hub' : Hub σ ο τ π ρ) : Prop :=
  ∃ is, hub'.history = hub.history ++ is ∧ Stretch hub.emissions hub'.emissions own is

namespace Extends

variable {hub hub₁ hub₂ : Hub σ ο τ π ρ} {own own₁ own₂ : List (Incident τ π ρ)}

theorem emissions_le (h : Extends own hub hub₁) : hub.emissions ≤ hub₁.emissions := by
  obtain ⟨is, -, hs⟩ := h
  exact hs.le

/-- No emission begins. -/
theorem of_open {is : List (Incident τ π ρ)} (hh : hub₁.history = hub.history ++ is)
    (he : hub₁.emissions = hub.emissions)
    (h : ∀ i ∈ is, ∀ n, i.emission? = some n → n < hub.emissions)
    (hs : Settled is) : Extends is hub hub₁ :=
  ⟨is, hh, he.symm ▸ Stretch.of_open h hs⟩

/-- Nothing happens. -/
theorem of_eq (hi : hub₁.incidents = hub.incidents) (he : hub₁.emissions = hub.emissions) :
    Extends [] hub hub₁ :=
  of_open (by simp [history, hi]) he (by simp) ⟨[], rfl⟩

theorem refl (hub : Hub σ ο τ π ρ) : Extends [] hub hub := of_eq rfl rfl

theorem congr (h : Extends own₁ hub hub₁)
    (hown : ∀ n, n < hub.emissions → ofEmission n own₁ = ofEmission n own₂) :
    Extends own₂ hub hub₁ := by
  obtain ⟨is, hh, hs⟩ := h
  exact ⟨is, hh, hs.congr hown⟩

theorem trans (h₁ : Extends own₁ hub hub₁) (h₂ : Extends own₂ hub₁ hub₂)
    (hown : ∀ n, hub.emissions ≤ n → ofEmission n own₂ = []) :
    Extends (own₁ ++ own₂) hub hub₂ := by
  obtain ⟨is₁, hh₁, hs₁⟩ := h₁
  obtain ⟨is₂, hh₂, hs₂⟩ := h₂
  exact ⟨is₁ ++ is₂, by rw [hh₂, hh₁, List.append_assoc], hs₁.append hs₂ hown⟩

/-- Actions one behind the other. -/
theorem trans_nil (h₁ : Extends own hub hub₁) (h₂ : Extends [] hub₁ hub₂) :
    Extends own hub hub₂ := by
  have := h₁.trans h₂ fun n _ => rfl
  rwa [List.append_nil] at this

theorem of_still [DecidableEq τ] {m : Machine σ ο τ π} (h : Still m hub hub₁) :
    Extends [] hub hub₁ := by
  obtain ⟨rs, hh, he⟩ := h.history
  have hreports : ∀ i ∈ rs.map (.report : ρ → Incident τ π ρ), i.emission? = none := by
    simp [Incident.emission?]
  have : Extends (rs.map .report) hub hub₁ := by
    refine of_open hh he (fun i hi n hn => ?_) (settled_of_no_failure (by simp [Incident.isFailure]))
    rw [hreports i hi] at hn
    cases hn
  refine this.congr fun n _ => ofEmission_eq_nil fun i hi => ?_
  rw [hreports i hi]
  exact nofun

end Extends

variable [DecidableEq τ] (m : Machine σ ο τ π)

theorem follows_extends : Follows (ρ := ρ) m (Extends []) where
  refl := .refl
  trans := .trans_nil
  still := .of_still

/-! ## Emissions -/

section Emit

variable {act : Action ο τ π ρ → Hub σ ο τ π ρ → Hub σ ο τ π ρ × Option Fault}
  (hact : ∀ a hub, Extends [] hub (act a hub).1)
include m hact

/-- An open emission calls a listener, which returns or fails. It stays open until the listener
leaves, and a failure is put on record at once. -/
theorem call_extends {emission : Nat} (channel : τ) (payload : π) {hub : Hub σ ο τ π ρ}
    (hopen : emission < hub.emissions) (id : ListenerId) :
    ∃ fault, Extends (calls emission payload [(id, fault)]) hub
      (call act emission channel payload hub id) := by
  have hcalled : Extends [.called emission id payload] hub
      (hub.record (.called emission id payload)) :=
    .of_open (history_record hub _) rfl (by simpa [Incident.emission?] using hopen) ⟨[], rfl⟩
  have hheard : Extends [.called emission id payload] hub (hub.heard emission payload id) :=
    hcalled.trans_nil ((follows_extends m).recordAll _ _)
  have hran := hheard.trans_nil
    ((follows_extends m).runPlan hact id (List.range (hub.listener id).plan.length) _)
  have hstill := Nat.lt_of_lt_of_le hopen hran.emissions_le
  have hown (fault : Option Fault) (n : Nat) (hn : hub.emissions ≤ n) :
      ofEmission n [(.left emission id fault : Incident τ π ρ)] = [] :=
    ofEmission_singleton_ne fun he => Nat.not_lt.mpr hn (Option.some.inj he ▸ hopen)
  rcases hr : Hub.runPlan act id (List.range (hub.listener id).plan.length)
    (hub.heard emission payload id) with ⟨hub', _ | fault⟩ <;> rw [hr] at hran hstill
  · have hleft : Extends [.left emission id none] hub' (hub'.record (.left emission id none)) :=
      .of_open (history_record hub' _) rfl (by simpa [Incident.emission?] using hstill) ⟨[], rfl⟩
    rw [call_of_none channel hr]
    exact ⟨none, hran.trans hleft (hown none)⟩
  · have hleft : Extends [.left emission id (some fault), .fault channel fault] hub'
        ((hub'.record (.left emission id (some fault))).record (.fault channel fault)) :=
      .of_open (by simp) rfl (by simpa [Incident.emission?] using hstill)
        (settled_pair emission id channel fault)
    rw [call_of_some channel hr]
    refine ⟨some fault, hran.trans (hleft.congr fun n _ => ?_) (hown (some fault))⟩
    have hfault : ofEmission n [(.fault channel fault : Incident τ π ρ)] = [] :=
      ofEmission_singleton_ne (by simp [Incident.emission?])
    rw [ofEmission_cons, hfault, List.append_nil]
    rfl

/-- An open emission calls its audience in order, once for each time that a listener stands there.
The listeners cannot change the audience any more. -/
theorem callAll_extends {emission : Nat} (channel : τ) (payload : π) (audience : List ListenerId)
    {hub : Hub σ ο τ π ρ} (hopen : emission < hub.emissions) :
    ∃ cs : List (ListenerId × Option Fault), cs.map Prod.fst = audience ∧
      Extends (calls emission payload cs) hub
        (audience.foldl (Hub.call act emission channel payload) hub) := by
  induction audience generalizing hub with
  | nil => exact ⟨[], rfl, .refl hub⟩
  | cons id audience ih =>
    obtain ⟨fault, hcall⟩ := call_extends m hact channel payload hopen id
    obtain ⟨cs, hcs, hrest⟩ := ih (Nat.lt_of_lt_of_le hopen hcall.emissions_le)
    refine ⟨(id, fault) :: cs, by rw [List.map_cons, hcs], ?_⟩
    rw [← List.singleton_append, calls_append]
    refine hcall.trans hrest fun n hn => ofEmission_calls_ne (Nat.ne_of_gt ?_) payload cs
    exact Nat.lt_of_lt_of_le hopen hn

/-- An emission begins, calls its audience and ends. -/
theorem emit_stretch (channel : τ) (payload : π) (hub : Hub σ ο τ π ρ) :
    ∃ is cs, cs.map Prod.fst = hub.board.listeners channel ∧
      (hub.emit act channel payload).history = hub.history ++
        .begun hub.emissions channel payload (cs.map Prod.fst) :: (is ++ [.ended hub.emissions]) ∧
      Stretch (hub.emissions + 1) (hub.emit act channel payload).emissions
        (calls hub.emissions payload cs) is := by
  have hopen : hub.emissions < (hub.begun channel payload).emissions :=
    Nat.lt_succ_self hub.emissions
  obtain ⟨cs, hcs, is, hh, hs⟩ :=
    callAll_extends m hact channel payload (hub.board.listeners channel) hopen
  refine ⟨is, cs, hcs, ?_, hs⟩
  rw [Hub.emit, history_record, hh, Hub.begun, history_record, hcs]
  simp only [List.append_assoc, List.cons_append, List.nil_append]
  rfl

theorem emit_extends (channel : τ) (payload : π) (hub : Hub σ ο τ π ρ) :
    Extends [] hub (hub.emit act channel payload) := by
  obtain ⟨is, cs, -, hh, hs⟩ := emit_stretch m hact channel payload hub
  exact ⟨_, hh, hs.close channel⟩

end Emit

/-- Every action extends the history by emissions that are told to their end. -/
theorem run_extends (a : Action ο τ π ρ) (hub : Hub σ ο τ π ρ) :
    Extends [] hub (run m a hub).1 :=
  (follows_extends m).runWithin
    (fun _ hact hub channel payload => emit_extends m hact channel payload hub) _ a hub

theorem runEach_extends (actions : List (Action ο τ π ρ)) (hub : Hub σ ο τ π ρ) :
    Extends [] hub (hub.runEach m actions) :=
  (follows_extends m).runEach
    (fun _ hact hub channel payload => emit_extends m hact channel payload hub) actions hub

variable {m}

/-- An emission that is over began at a moment of the path, and called the listeners that its
channel had at that moment. The path may be one of moves of some kind only. -/
theorem Extends.exists_moment {R : Hub σ ο τ π ρ → Hub σ ο τ π ρ → Prop}
    (hR : ∀ {a b}, R a b → Move m a b) {hub hub' : Hub σ ο τ π ρ}
    (path : Relation.ReflTransGen R hub hub') (h : Extends [] hub hub') {n : Nat}
    (hlo : hub.emissions ≤ n) (hhi : n < hub'.emissions) :
    ∃ is moment channel payload cs, hub'.history = hub.history ++ is ∧
      Relation.ReflTransGen R hub moment ∧
      Relation.ReflTransGen R (moment.begun channel payload) hub' ∧ moment.emissions = n ∧
      cs.map Prod.fst = moment.board.listeners channel ∧
      ofEmission n is = transcript n channel payload cs := by
  obtain ⟨is, hh, hs⟩ := h
  obtain ⟨channel, payload, cs, hn⟩ := hs.within n hlo hhi
  obtain ⟨is', hh', hmoment⟩ := exists_moment_of_path hR path
  obtain rfl := List.append_cancel_left (hh'.symm.trans hh)
  have hmem : .begun n channel payload (cs.map Prod.fst) ∈ ofEmission n is' := by
    rw [hn]
    exact List.mem_cons_self
  obtain ⟨moment, hbefore, hafter, he, ha⟩ :=
    hmoment n channel payload _ (List.mem_filter.mp hmem).1
  exact ⟨is', moment, channel, payload, cs, hh, hbefore, hafter, he, ha.symm, hn⟩

end Hub

/-! ## Channels -/

namespace Channel

variable {π ρ : Type}

/-- An emission on a channel returns, whatever the listeners do while it calls them: subscribe,
dispose handles, clear the channel, emit again or fail. It calls the listeners that the channel had
at its beginning, once for each time that they were subscribed and in that order, and nobody else
hears its payload. The emissions inside it are emissions on the hub of their moment and are told to
their end as well, and each failure of a listener is put on record once. -/
theorem emit_reaches_audience (hub : Hub Unit (Operation π) Unit π ρ) (payload : π) :
    let hub' := hub.emit (Hub.run (machine π)) () payload
    hub.run (machine π) (.operate (.emit payload)) = (hub', none) ∧
      ∃ during cs,
        hub'.history = hub.history ++ during ∧
        cs.map Prod.fst = hub.board.listeners () ∧
        ofEmission hub.emissions during = transcript hub.emissions () payload cs ∧
        (∀ n, hub.emissions < n → n < hub'.emissions → ∃ moment payload cs,
          Hub.Reaches (machine π) hub moment ∧
          Hub.Reaches (machine π) (moment.begun () payload) hub' ∧
          moment.emissions = n ∧ cs.map Prod.fst = moment.board.listeners () ∧
          ofEmission n during = transcript n () payload cs) ∧
        (∀ n, n < hub.emissions ∨ hub'.emissions ≤ n → ofEmission n during = []) ∧
        Settled during := by
  intro hub'
  obtain ⟨is, cs, hcs, hh, hs⟩ :=
    Hub.emit_stretch (machine π) (Hub.run_extends (machine π)) () payload hub
  have hclosed := hs.close ()
  refine ⟨Hub.run_eq _ _ _, _, cs, hh, hcs, hs.ofEmission_close (), fun n hlo hhi => ?_, ?_,
    hclosed.settled⟩
  · obtain ⟨_, payload', cs', hn⟩ := hclosed.within n (Nat.le_of_lt hlo) hhi
    obtain ⟨during', hh', hmoment⟩ :=
      (Hub.emit_reaches (Hub.run_reaches (machine π)) hub () payload).exists_moment
    obtain rfl := List.append_cancel_left (hh'.symm.trans hh)
    have hmem : .begun n () payload' (cs'.map Prod.fst) ∈
        ofEmission n (.begun hub.emissions () payload (cs.map Prod.fst) ::
          (is ++ [.ended hub.emissions])) := by
      rw [hn]
      exact List.mem_cons_self
    obtain ⟨moment, hbefore, hafter, he, ha⟩ :=
      hmoment n () payload' _ ((List.mem_filter.mp hmem).1)
    exact ⟨moment, payload', cs', hbefore, hafter, he, ha.symm, hn⟩
  · rintro n (hn | hn)
    · exact hclosed.below n hn
    · exact hclosed.above n hn

end Channel

end Typeset.Events
