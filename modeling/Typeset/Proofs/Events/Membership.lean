import Mathlib.Logic.Function.Basic
import Typeset.Proofs.Events.Disposal

/-!
# What groups were given

A live group holds its members, and a disposed one holds nothing. What a group was ever given is
therefore put down beside the board, for everything that may be done with handles since there was
nothing. A live group holds all that it was given; of a disposed one all that it was given is
disposed, whether it was given before or after. So disposing a handle disposes just what can be
reached from it by way of all that was ever given, although the groups that were disposed before do
not know their members any more.

## Main definitions

* `Events.Board.Course`: everything that may have been done with handles
* `Events.Board.IsMember`: a handle was given to a group
* `Events.Board.Orderly`: what holds at any moment

## Main results

* `Events.Board.Course.orderly`: every moment is orderly
* `Events.Board.dispose_reaches_members`: what disposing a handle does at any moment
-/

namespace Typeset.Events.Board

variable {τ : Type} [DecidableEq τ]

/-! ## Whatever was done before -/

/-- What may have been done with handles and channels since there was nothing: the board that came
of it, what each group was given in all, and the handles that took their listeners out, in order.
Only groups are given members, and only handles that there are. -/
inductive Course : Board τ → (Handle → Option (List Handle)) → List Handle → Prop where
  | start : Course {} (fun _ => none) []
  | subscribe {b : Board τ} {given : Handle → Option (List Handle)} {released : List Handle}
    (past : Course b given released) (channel : τ) (id : ListenerId) :
    Course (b.subscribe channel id).1 given released
  | bare {b : Board τ} {given : Handle → Option (List Handle)} {released : List Handle}
    (past : Course b given released) : Course (b.add none).1 given released
  | group {b : Board τ} {given : Handle → Option (List Handle)} {released members : List Handle}
    (past : Course b given released) (known : ∀ m ∈ members, m < b.handles.length) :
    Course (b.group members).1 (Function.update given b.handles.length (some members)) released
  /-- A live group is given more members. -/
  | extend {b : Board τ} {given : Handle → Option (List Handle)}
    {released old members : List Handle} {g : Handle} (past : Course b given released)
    (isGroup : given g = some old) (live : b.isDisposed g = false)
    (known : ∀ m ∈ members, m < b.handles.length) :
    Course (b.extend g members) (Function.update given g (some (old ++ members))) released
  /-- A disposed group is given more members. -/
  | extendDisposed {b : Board τ} {given : Handle → Option (List Handle)}
    {released old members late : List Handle} {g : Handle} (past : Course b given released)
    (isGroup : given g = some old) (dead : b.isDisposed g = true)
    (known : ∀ m ∈ members, m < b.handles.length)
    (disposal : Disposal b members late (b.extend g members)) :
    Course (b.extend g members) (Function.update given g (some (old ++ members))) (released ++ late)
  | dispose {b : Board τ} {given : Handle → Option (List Handle)} {released late : List Handle}
    {h : Handle} (past : Course b given released) (disposal : Disposal b [h] late (b.dispose h)) :
    Course (b.dispose h) given (released ++ late)
  | clear {b : Board τ} {given : Handle → Option (List Handle)} {released : List Handle}
    (past : Course b given released) (channel : τ) : Course (b.clear channel) given released

/-- A handle is among those that a group was given. -/
def IsMember (given : Handle → Option (List Handle)) (g m : Handle) : Prop :=
  ∃ members, given g = some members ∧ m ∈ members

/-- What holds at any moment of a course. -/
structure Orderly (b : Board τ) (given : Handle → Option (List Handle))
    (released : List Handle) : Prop where
  /-- A live group holds what it was given. -/
  held : ∀ g members, b.hold? g = some (.group members) → given g = some members
  /-- A group holds all that it was given, or all of it is disposed. -/
  closed : ∀ g members, given g = some members → b.hold? g = some (.group members) ∨
    b.hold? g = none ∧ ∀ m ∈ members, b.hold? m = none
  known : ∀ g members, given g = some members →
    g < b.handles.length ∧ ∀ m ∈ members, m < b.handles.length
  nodup : released.Nodup
  gone : ∀ h ∈ released, h < b.handles.length ∧ b.hold? h = none

theorem extend_of_hold {b : Board τ} {g : Handle} {old : List Handle}
    (hold : b.hold? g = some (.group old)) (members : List Handle) :
    b.extend g members = b.setHold g (some (.group (old ++ members))) := by
  rw [Board.extend, hold]

theorem extend_of_disposed {b : Board τ} {g : Handle} (dead : b.hold? g = none)
    (members : List Handle) : b.extend g members = b.disposeAll members := by
  rw [Board.extend, dead]

/-- After one group was given something, there are that group and the others. -/
theorem given_update {given : Handle → Option (List Handle)} {g g' : Handle}
    {members new : List Handle} (h : Function.update given g (some new) g' = some members) :
    g' = g ∧ members = new ∨ g' ≠ g ∧ given g' = some members := by
  by_cases heq : g' = g
  · subst heq
    rw [Function.update_self, Option.some_inj] at h
    exact .inl ⟨rfl, h.symm⟩
  · rw [Function.update_of_ne heq] at h
    exact .inr ⟨heq, h⟩

namespace Orderly

variable {b b' : Board τ} {given : Handle → Option (List Handle)}
  {released late members old hs : List Handle} {g : Handle}

omit [DecidableEq τ] in
/-- A new handle that is no group. -/
theorem add (ho : Orderly b given released) {hold : Option (Hold τ)}
    (hplain : ∀ members, hold ≠ some (.group members)) : Orderly (b.add hold).1 given released where
  held g members hg := by
    rw [hold?_add] at hg
    split at hg
    · exact absurd hg (hplain members)
    · exact ho.held g members hg
  closed g members hg := by
    obtain ⟨hlt, hmembers⟩ := ho.known g members hg
    rw [hold?_add_of_lt b hold hlt]
    refine (ho.closed g members hg).imp_right (And.imp_right fun hdead m hm => ?_)
    rw [hold?_add_of_lt b hold (hmembers m hm), hdead m hm]
  known g members hg := by
    obtain ⟨hlt, hmembers⟩ := ho.known g members hg
    rw [length_handles_add]
    exact ⟨Nat.lt_succ_of_lt hlt, fun m hm => Nat.lt_succ_of_lt (hmembers m hm)⟩
  nodup := ho.nodup
  gone h hmem := by
    obtain ⟨hlt, hnone⟩ := ho.gone h hmem
    rw [length_handles_add, hold?_add_of_lt b hold hlt]
    exact ⟨Nat.lt_succ_of_lt hlt, hnone⟩

omit [DecidableEq τ] in
/-- A new group. -/
theorem group (ho : Orderly b given released) (known : ∀ m ∈ members, m < b.handles.length) :
    Orderly (b.group members).1 (Function.update given b.handles.length (some members))
      released where
  held g ms hg := by
    rw [Board.group, hold?_add] at hg
    split at hg
    · next heq =>
      cases hg
      rw [heq, Function.update_self]
    · next hne =>
      rw [Function.update_of_ne hne]
      exact ho.held g ms hg
  closed g ms hg := by
    rcases given_update hg with ⟨rfl, rfl⟩ | ⟨-, hg⟩
    · exact .inl (hold?_add_self b _)
    · obtain ⟨hlt, hmembers⟩ := ho.known g ms hg
      rw [Board.group, hold?_add_of_lt b _ hlt]
      refine (ho.closed g ms hg).imp_right (And.imp_right fun hdead m hm => ?_)
      rw [hold?_add_of_lt b _ (hmembers m hm), hdead m hm]
  known g ms hg := by
    rw [Board.group, length_handles_add]
    rcases given_update hg with ⟨rfl, rfl⟩ | ⟨-, hg⟩
    · exact ⟨Nat.lt_succ_self _, fun m hm => Nat.lt_succ_of_lt (known m hm)⟩
    · obtain ⟨hlt, hmembers⟩ := ho.known g ms hg
      exact ⟨Nat.lt_succ_of_lt hlt, fun m hm => Nat.lt_succ_of_lt (hmembers m hm)⟩
  nodup := ho.nodup
  gone h hmem := by
    obtain ⟨hlt, hnone⟩ := ho.gone h hmem
    rw [Board.group, length_handles_add, hold?_add_of_lt b _ hlt]
    exact ⟨Nat.lt_succ_of_lt hlt, hnone⟩

/-- Handles are disposed. Who takes a listener out now was not disposed before. -/
theorem disposal (ho : Orderly b given released) (d : Disposal b hs late b') :
    Orderly b' given (released ++ late) where
  held g members hg := by
    rcases d.hold?_eq_or g with heq | hnone
    · exact ho.held g members (heq.symm.trans hg)
    · rw [hnone] at hg
      cases hg
  closed g members hg := by
    rcases ho.closed g members hg with hold | ⟨hnone, hdead⟩
    · rcases d.hold?_eq_or g with heq | hnone
      · exact .inl (heq.trans hold)
      · exact .inr ⟨hnone, d.closed hold hnone⟩
    · exact .inr ⟨d.hold?_eq_none hnone, fun m hm => d.hold?_eq_none (hdead m hm)⟩
  known g members hg := by
    rw [d.length_handles]
    exact ho.known g members hg
  nodup := by
    refine List.nodup_append.mpr ⟨ho.nodup, d.nodup, fun x hbefore y hlate heq => ?_⟩
    subst heq
    obtain ⟨⟨channel, id, hold⟩, -⟩ := d.mem_released_iff.mp hlate
    rw [Holds, (ho.gone x hbefore).2] at hold
    cases hold
  gone h hmem := by
    rw [d.length_handles]
    rcases List.mem_append.mp hmem with hmem | hmem
    · obtain ⟨hlt, hnone⟩ := ho.gone h hmem
      exact ⟨hlt, d.hold?_eq_none hnone⟩
    · obtain ⟨⟨channel, id, hold⟩, hnone⟩ := d.mem_released_iff.mp hmem
      exact ⟨lt_length_of_hold? hold, hnone⟩

omit [DecidableEq τ] in
/-- A live group keeps new members. -/
theorem extend (ho : Orderly b given released) (hold : b.hold? g = some (.group old))
    (known : ∀ m ∈ members, m < b.handles.length) :
    Orderly (b.setHold g (some (.group (old ++ members))))
      (Function.update given g (some (old ++ members))) released where
  held g' ms hg := by
    by_cases heq : g' = g
    · subst heq
      rw [hold?_setHold_self b _ (lt_length_of_hold? hold)] at hg
      cases hg
      rw [Function.update_self]
    · rw [hold?_setHold_of_ne b _ heq] at hg
      rw [Function.update_of_ne heq]
      exact ho.held g' ms hg
  closed g' ms hg := by
    rcases given_update hg with ⟨rfl, rfl⟩ | ⟨heq, hg⟩
    · exact .inl (hold?_setHold_self b _ (lt_length_of_hold? hold))
    · rw [hold?_setHold_of_ne b _ heq]
      refine (ho.closed g' ms hg).imp_right (And.imp_right fun hdead m hm => ?_)
      have hne : m ≠ g := by
        rintro rfl
        rw [hdead m hm] at hold
        cases hold
      rw [hold?_setHold_of_ne b _ hne, hdead m hm]
  known g' ms hg := by
    rw [length_handles_setHold]
    rcases given_update hg with ⟨rfl, rfl⟩ | ⟨-, hg⟩
    · exact ⟨lt_length_of_hold? hold,
        List.forall_mem_append.mpr ⟨(ho.known g' old (ho.held g' old hold)).2, known⟩⟩
    · exact ho.known g' ms hg
  nodup := ho.nodup
  gone h hmem := by
    obtain ⟨hlt, hnone⟩ := ho.gone h hmem
    have hne : h ≠ g := by
      rintro rfl
      rw [hnone] at hold
      cases hold
    rw [length_handles_setHold, hold?_setHold_of_ne b _ hne]
    exact ⟨hlt, hnone⟩

omit [DecidableEq τ] in
/-- A disposed group is given members that are disposed as well. -/
theorem extendDisposed (ho : Orderly b given released) (isGroup : given g = some old)
    (dead : b.hold? g = none) (known : ∀ m ∈ members, m < b.handles.length)
    (gone : ∀ m ∈ members, b.hold? m = none) :
    Orderly b (Function.update given g (some (old ++ members))) released where
  held g' ms hg := by
    have hne : g' ≠ g := by
      rintro rfl
      rw [dead] at hg
      cases hg
    rw [Function.update_of_ne hne]
    exact ho.held g' ms hg
  closed g' ms hg := by
    rcases given_update hg with ⟨rfl, rfl⟩ | ⟨-, hg⟩
    · refine .inr ⟨dead, List.forall_mem_append.mpr ⟨?_, gone⟩⟩
      rcases ho.closed g' old isGroup with hold | ⟨-, hdead⟩
      · rw [dead] at hold
        cases hold
      · exact hdead
    · exact ho.closed g' ms hg
  known g' ms hg := by
    rcases given_update hg with ⟨rfl, rfl⟩ | ⟨-, hg⟩
    · obtain ⟨hlt, hold⟩ := ho.known g' old isGroup
      exact ⟨hlt, List.forall_mem_append.mpr ⟨hold, known⟩⟩
    · exact ho.known g' ms hg
  nodup := ho.nodup
  gone := ho.gone

end Orderly

/-- Every moment of a course is orderly. -/
theorem Course.orderly {b : Board τ} {given : Handle → Option (List Handle)}
    {released : List Handle} (past : Course b given released) : Orderly b given released := by
  induction past with
  | start =>
    exact ⟨fun _ _ => nofun, fun _ _ => nofun, fun _ _ => nofun, .nil, fun _ => nofun⟩
  | @subscribe b _ _ _ channel id ih =>
    have hsame : Orderly (b.setListeners channel (b.listeners channel ++ [id])) _ _ :=
      ⟨ih.held, ih.closed, ih.known, ih.nodup, ih.gone⟩
    exact hsame.add fun _ => nofun
  | bare _ ih => exact ih.add fun _ => nofun
  | group _ known ih => exact ih.group known
  | @extend _ _ _ old _ g _ isGroup live known ih =>
    have hold := (ih.closed g old isGroup).resolve_right fun hdead => by
      rw [isDisposed_iff.mpr hdead.1] at live
      cases live
    rw [extend_of_hold hold]
    exact ih.extend hold known
  | extendDisposed _ isGroup dead known disposal ih =>
    refine (ih.disposal disposal).extendDisposed isGroup
      (disposal.hold?_eq_none (isDisposed_iff.mp dead)) ?_ fun m => disposal.hold?_eq_none_of_mem
    rw [disposal.length_handles]
    exact known
  | dispose _ disposal ih => exact ih.disposal disposal
  | clear _ channel ih => exact ⟨ih.held, ih.closed, ih.known, ih.nodup, ih.gone⟩

omit [DecidableEq τ] in
/-- What was reached from a disposed handle is disposed. -/
theorem Orderly.isDisposed_of_path {b : Board τ} {given : Handle → Option (List Handle)}
    {released : List Handle} (ho : Orderly b given released) {h other : Handle}
    (hpath : Relation.ReflTransGen (IsMember given) h other) (gone : b.hold? h = none) :
    b.hold? other = none := by
  induction hpath with
  | refl => exact gone
  | tail _ hmember ih =>
    obtain ⟨members, hgiven, hmem⟩ := hmember
    rcases ho.closed _ members hgiven with hold | ⟨-, hdead⟩
    · rw [ih] at hold
      cases hold
    · exact hdead _ hmem

/-- **Disposing a group disposes all that can be reached from it, and nothing else.** At any moment,
whatever groups hold whatever, themselves included, disposing a handle comes to its end. The handles
that are disposed then are those that were before and those that can be reached from it by way of
everything that the groups were ever given. Those of them that still had a listener take it out, and
in all that happens no handle does so twice. All that a disposed group was ever given is disposed,
and what it is given later is disposed at once. -/
theorem dispose_reaches_members {b : Board τ} {given : Handle → Option (List Handle)}
    {released : List Handle} (past : Course b given released) :
    released.Nodup ∧
    (∀ g members, given g = some members → b.isDisposed g = true →
      ∀ m ∈ members, b.isDisposed m = true) ∧
    (∀ g old members, given g = some old → b.isDisposed g = true →
      ∃ late, Disposal b members late (b.extend g members) ∧
        ∀ m ∈ members, (b.extend g members).isDisposed m = true) ∧
    ∀ h, ∃ late, Disposal b [h] late (b.dispose h) ∧
      (∀ late' b', Disposal b [h] late' b' → late' = late ∧ b' = b.dispose h) ∧
      (∀ other, (b.dispose h).isDisposed other = true ↔
        b.isDisposed other = true ∨ Relation.ReflTransGen (IsMember given) h other) ∧
      (∀ other, other ∈ late ↔ (∃ channel id, b.Holds other channel id) ∧
        Relation.ReflTransGen (IsMember given) h other) ∧
      (released ++ late).Nodup := by
  have ho := past.orderly
  refine ⟨ho.nodup, fun g members hgiven dead m hm => ?_, fun g old members _ dead => ?_,
    fun h => ?_⟩
  · rw [isDisposed_iff] at dead ⊢
    exact ho.isDisposed_of_path (.single ⟨members, hgiven, hm⟩) dead
  · obtain ⟨late, d⟩ := exists_disposal_all b members
    rw [extend_of_disposed (isDisposed_iff.mp dead)]
    exact ⟨late, d, fun m hm => isDisposed_iff.mpr (d.hold?_eq_none_of_mem hm)⟩
  · obtain ⟨late, d⟩ := exists_disposal b h
    have ho' := ho.disposal d
    -- what the groups hold now is part of what they were given
    have hgone (other : Handle) : (b.dispose h).hold? other = none ↔
        b.hold? other = none ∨ Relation.ReflTransGen (IsMember given) h other := by
      constructor
      · intro gone
        by_cases dead : b.hold? other = none
        · exact .inl dead
        · obtain ⟨h', hmem, hpath⟩ := d.reached dead gone
          obtain rfl := List.mem_singleton.mp hmem
          refine .inr (Relation.ReflTransGen.mono (fun g m hm => ?_) _ _ hpath)
          obtain ⟨members, hold, hmem⟩ := hm
          exact ⟨members, ho.held g members hold, hmem⟩
      · rintro (dead | hpath)
        · exact d.hold?_eq_none dead
        · exact ho'.isDisposed_of_path hpath (d.hold?_eq_none_of_mem List.mem_cons_self)
    refine ⟨late, d, fun _ _ => d.unique, fun other => ?_, fun other => ?_, ho'.nodup⟩
    · rw [isDisposed_iff, isDisposed_iff, hgone]
    · rw [d.mem_released_iff, hgone]
      refine and_congr_right fun hlisten => or_iff_right fun dead => ?_
      obtain ⟨channel, id, hold⟩ := hlisten
      rw [Holds, dead] at hold
      cases hold

/-- Two groups hold one another and themselves, and both hold a listener. It is taken out once. It
can be reached from the second group by way of the first. -/
theorem dispose_reaches_members_in_cycle :
    let b : Board Unit :=
      (((({} : Board Unit).subscribe () 7).1.group [0]).1.group [1, 0]).1.extend 1 [2, 1]
    ∃ given late, Course b given [] ∧ Disposal b [2] late (b.dispose 2) ∧ 0 ∈ late ∧
      late.Nodup ∧ (b.dispose 2).isDisposed 0 = true ∧ (b.dispose 2).isDisposed 1 = true ∧
      (b.dispose 2).isDisposed 2 = true := by
  intro b
  obtain ⟨given, past, hone, htwo⟩ :
      ∃ given, Course b given [] ∧ given 1 = some [0, 2, 1] ∧ given 2 = some [1, 0] :=
    ⟨_, (((Course.start.subscribe () 7).group (by decide)).group (by decide)).extend rfl rfl
      (by decide), rfl, rfl⟩
  obtain ⟨-, -, -, hdispose⟩ := dispose_reaches_members past
  obtain ⟨late, d, -, hgone, hlate, hnodup⟩ := hdispose 2
  have hfirst : Relation.ReflTransGen (IsMember given) 2 1 := .single ⟨_, htwo, by decide⟩
  have hlistener : Relation.ReflTransGen (IsMember given) 2 0 :=
    hfirst.tail ⟨_, hone, by decide⟩
  exact ⟨given, late, past, d, (hlate 0).mpr ⟨⟨(), 7, rfl⟩, hlistener⟩, hnodup,
    (hgone 0).mpr (.inr hlistener), (hgone 1).mpr (.inr hfirst), (hgone 2).mpr (.inr .refl)⟩

end Typeset.Events.Board
