import Typeset.Proofs.Events.Account

/-!
# Disposing groups

Groups hold handles, and among them other groups, also such that hold them in turn. A handle gives
up what it holds before any of its members is disposed, so no way through the groups comes back to
it, and disposing ends whatever holds what. It is told here as it goes on, group inside group, with
no bound on how deep they lie, and with the handles that take their listeners out on the way.

What is disposed is given by two facts. Only what can be reached is disposed; and with a group all
its members are, so that what can be reached from a disposed handle is disposed too. Neither needs
to know in which order the groups were entered.

## Main definitions

* `Events.Board.Disposal`: handles disposed one after another
* `Events.Board.Contains`: a handle is a member of a live group

## Main results

* `Events.Board.exists_disposal`: disposing comes to its end
* `Events.Board.Disposal.closed`, `Events.Board.Disposal.reached`: what is disposed
* `Events.Board.Disposal.mem_released_iff`, `Events.Board.Disposal.nodup`: who takes a listener out
-/

namespace Typeset.Events.Board

variable {τ : Type}

/-! ## Handles that give up what they hold -/

@[simp] theorem length_handles_setHold (b : Board τ) (h : Handle) (hold : Option (Hold τ)) :
    (b.setHold h hold).handles.length = b.handles.length := List.length_set

@[simp] theorem length_handles_add (b : Board τ) (hold : Option (Hold τ)) :
    (b.add hold).1.handles.length = b.handles.length + 1 := List.length_append

theorem hold?_add (b : Board τ) (hold : Option (Hold τ)) (h : Handle) :
    (b.add hold).1.hold? h = if h = b.handles.length then hold else b.hold? h := by
  rcases Nat.lt_trichotomy h b.handles.length with hlt | rfl | hgt
  · rw [if_neg (Nat.ne_of_lt hlt), hold?_add_of_lt b hold hlt]
  · rw [if_pos rfl, hold?_add_self]
  · rw [if_neg (Nat.ne_of_gt hgt), hold?, hold?, List.getElem?_eq_none (Nat.le_of_lt hgt),
      List.getElem?_eq_none (by rw [length_handles_add]; exact hgt)]

theorem hold?_setHold_none (b : Board τ) (h other : Handle) :
    (b.setHold h none).hold? other = if other = h then none else b.hold? other := by
  by_cases hne : other = h
  · subst hne
    rw [if_pos rfl]
    by_cases hlt : other < b.handles.length
    · exact hold?_setHold_self b none hlt
    · rw [hold?, List.getElem?_eq_none (by simpa using Nat.le_of_not_lt hlt)]
      rfl
  · rw [if_neg hne, hold?_setHold_of_ne b none hne]

theorem hold?_setHold_none_self (b : Board τ) (h : Handle) : (b.setHold h none).hold? h = none := by
  rw [hold?_setHold_none, if_pos rfl]

theorem live_setHold_none {b : Board τ} {h : Handle} {hold : Hold τ} (hh : b.hold? h = some hold) :
    (b.setHold h none).live + 1 = b.live := by
  obtain ⟨hlt, hget⟩ := List.getElem?_eq_some_iff.mp (getElem?_of_hold? hh)
  have hpos : 0 < b.live :=
    List.countP_pos_iff.mpr ⟨_, List.mem_of_getElem? (getElem?_of_hold? hh), rfl⟩
  simp only [live, setHold, List.countP_set hlt, hget] at hpos ⊢
  simp only [Option.isSome_some, Option.isSome_none, if_true, Bool.false_eq_true, if_false]
  omega

variable [DecidableEq τ]

@[simp] theorem hold?_remove (b : Board τ) (channel : τ) (id : ListenerId) (h : Handle) :
    (b.remove channel id).hold? h = b.hold? h := rfl

/-! ## Disposal to its end -/

/-- Handles disposed one after another: the board at first, the handles, those of them and of their
members that took a listener out, in order, and the board at the end. -/
inductive Disposal : Board τ → List Handle → List Handle → Board τ → Prop where
  | nil (b : Board τ) : Disposal b [] [] b
  /-- A disposed handle is passed over. -/
  | skip {b b' : Board τ} {h : Handle} {hs released : List Handle} (dead : b.hold? h = none)
    (rest : Disposal b hs released b') : Disposal b (h :: hs) released b'
  /-- A handle takes its listener out. -/
  | release {b b' : Board τ} {h : Handle} {hs released : List Handle} {channel : τ}
    {id : ListenerId} (hold : b.hold? h = some (.listener channel id))
    (rest : Disposal ((b.setHold h none).remove channel id) hs released b') :
    Disposal b (h :: hs) (h :: released) b'
  /-- A group gives up its members, and all of them are disposed before the next handle. -/
  | descend {b mid b' : Board τ} {h : Handle} {hs members inner released : List Handle}
    (hold : b.hold? h = some (.group members))
    (inside : Disposal (b.setHold h none) members inner mid) (rest : Disposal mid hs released b') :
    Disposal b (h :: hs) (inner ++ released) b'

namespace Disposal

variable {b mid b' : Board τ} {h : Handle} {hs hs' released released' : List Handle}

theorem append (d : Disposal b hs released mid) (d' : Disposal mid hs' released' b') :
    Disposal b (hs ++ hs') (released ++ released') b' := by
  induction d with
  | nil => exact d'
  | skip dead _ ih => exact .skip dead (ih d')
  | release hold _ ih => exact .release hold (ih d')
  | descend hold inside _ _ ih =>
    rw [List.append_assoc]
    exact .descend hold inside (ih d')

/-- There is one way to dispose handles. -/
theorem unique {b'' : Board τ} (d : Disposal b hs released b') (d' : Disposal b hs released' b'') :
    released' = released ∧ b'' = b' := by
  induction d generalizing released' b'' with
  | nil =>
    cases d'
    exact ⟨rfl, rfl⟩
  | skip dead _ ih =>
    cases d' with
    | skip _ rest => exact ih rest
    | release hold | descend hold =>
      rw [dead] at hold
      cases hold
  | release hold _ ih =>
    cases d' with
    | skip dead =>
      rw [dead] at hold
      cases hold
    | release hold' rest =>
      rw [hold] at hold'
      cases hold'
      obtain ⟨rfl, rfl⟩ := ih rest
      exact ⟨rfl, rfl⟩
    | descend hold' =>
      rw [hold] at hold'
      cases hold'
  | descend hold _ _ ihInside ih =>
    cases d' with
    | skip dead =>
      rw [dead] at hold
      cases hold
    | release hold' =>
      rw [hold] at hold'
      cases hold'
    | descend hold' inside rest =>
      rw [hold] at hold'
      cases hold'
      obtain ⟨rfl, rfl⟩ := ihInside inside
      obtain ⟨rfl, rfl⟩ := ih rest
      exact ⟨rfl, rfl⟩

end Disposal

/-- The bound on disposal is never met: with every handle that gives up what it holds there is one
live handle less. The members of a group are disposed one after another. -/
theorem exists_disposal_within {fuel : Nat} {b : Board τ} (hfuel : b.live ≤ fuel) (h : Handle) :
    ∃ released, Disposal b [h] released (disposeWithin fuel b h) := by
  induction fuel generalizing b h with
  | zero =>
    refine ⟨[], .skip ?_ (.nil b)⟩
    cases hhold : b.hold? h with
    | none => rfl
    | some hold =>
      have := live_setHold_none hhold
      omega
  | succ fuel ih =>
    have hmembers (members : List Handle) {c : Board τ} (hc : c.live ≤ fuel) :
        ∃ released, Disposal c members released (members.foldl (disposeWithin fuel) c) := by
      induction members generalizing c with
      | nil => exact ⟨[], .nil c⟩
      | cons m members ihMembers =>
        obtain ⟨first, hfirst⟩ := ih hc m
        obtain ⟨others, hothers⟩ :=
          ihMembers (Nat.le_trans (live_disposeWithin_le fuel c m) hc)
        exact ⟨first ++ others, hfirst.append hothers⟩
    unfold disposeWithin
    split
    · next dead => exact ⟨[], .skip dead (.nil b)⟩
    · next channel id hold => exact ⟨[h], .release hold (.nil _)⟩
    · next members hold =>
      have hless := live_setHold_none hold
      obtain ⟨inner, hinner⟩ := hmembers members (show (b.setHold h none).live ≤ fuel by omega)
      exact ⟨inner ++ [], .descend hold hinner (.nil _)⟩

/-- Disposing a handle comes to its end. -/
theorem exists_disposal (b : Board τ) (h : Handle) :
    ∃ released, Disposal b [h] released (b.dispose h) := exists_disposal_within (Nat.le_refl _) h

theorem exists_disposal_all (b : Board τ) (hs : List Handle) :
    ∃ released, Disposal b hs released (b.disposeAll hs) := by
  induction hs generalizing b with
  | nil => exact ⟨[], .nil b⟩
  | cons h hs ih =>
    obtain ⟨first, hfirst⟩ := exists_disposal b h
    obtain ⟨others, hothers⟩ := ih (b.dispose h)
    exact ⟨first ++ others, hfirst.append hothers⟩

/-! ## What is disposed -/

namespace Disposal

variable {b b' : Board τ} {h other : Handle} {hs members released : List Handle}

theorem length_handles (d : Disposal b hs released b') : b'.handles.length = b.handles.length := by
  induction d with
  | nil => rfl
  | skip _ _ ih => exact ih
  | release _ _ ih => exact ih.trans (length_handles_setHold _ _ _)
  | descend _ _ _ ihInside ih => exact ih.trans (ihInside.trans (length_handles_setHold _ _ _))

/-- A handle keeps what it holds or is disposed. -/
theorem hold?_eq_or (d : Disposal b hs released b') (other : Handle) :
    b'.hold? other = b.hold? other ∨ b'.hold? other = none := by
  induction d with
  | nil => exact .inl rfl
  | skip _ _ ih => exact ih
  | release _ _ ih =>
    rw [hold?_remove, hold?_setHold_none] at ih
    split at ih
    · exact .inr (ih.elim id id)
    · exact ih
  | descend _ _ _ ihInside ih =>
    rw [hold?_setHold_none] at ihInside
    rcases ih with heq | hnone
    · rw [heq]
      split at ihInside
      · exact .inr (ihInside.elim id id)
      · exact ihInside
    · exact .inr hnone

/-- A disposed handle stays disposed. -/
theorem hold?_eq_none (d : Disposal b hs released b') (hnone : b.hold? other = none) :
    b'.hold? other = none := by
  rcases d.hold?_eq_or other with heq | heq
  · rw [heq, hnone]
  · exact heq

/-- The handles that are disposed are disposed in the end. -/
theorem hold?_eq_none_of_mem (d : Disposal b hs released b') (hmem : other ∈ hs) :
    b'.hold? other = none := by
  induction d with
  | nil => cases hmem
  | skip dead rest ih =>
    rcases List.mem_cons.mp hmem with rfl | hmem
    · exact rest.hold?_eq_none dead
    · exact ih hmem
  | release _ rest ih =>
    rcases List.mem_cons.mp hmem with rfl | hmem
    · exact rest.hold?_eq_none (hold?_setHold_none_self _ _)
    · exact ih hmem
  | descend _ inside rest _ ih =>
    rcases List.mem_cons.mp hmem with rfl | hmem
    · exact rest.hold?_eq_none (inside.hold?_eq_none (hold?_setHold_none_self _ _))
    · exact ih hmem

/-- A group takes all its members along. -/
theorem closed (d : Disposal b hs released b') (hold : b.hold? h = some (.group members))
    (gone : b'.hold? h = none) : ∀ m ∈ members, b'.hold? m = none := by
  induction d with
  | nil =>
    rw [hold] at gone
    cases gone
  | skip _ _ ih => exact ih hold gone
  | @release b b' h' _ _ _ _ hold' _ ih =>
    have hne : h ≠ h' := by
      rintro rfl
      rw [hold] at hold'
      cases hold'
    exact ih (by rw [hold?_remove, hold?_setHold_none, if_neg hne, hold]) gone
  | @descend b mid b' h' _ _ _ _ hold' inside rest ihInside ih =>
    intro m hm
    by_cases heq : h = h'
    · subst heq
      rw [hold] at hold'
      cases hold'
      exact rest.hold?_eq_none (inside.hold?_eq_none_of_mem hm)
    · have hstart : (b.setHold h' none).hold? h = some (.group members) := by
        rw [hold?_setHold_none, if_neg heq, hold]
      rcases inside.hold?_eq_or h with hmid | hmid
      · exact ih (hmid.trans hstart) gone m hm
      · exact rest.hold?_eq_none (ihInside hstart hmid m hm)

end Disposal

/-- A handle is a member of a live group. -/
def Contains (b : Board τ) (h m : Handle) : Prop :=
  ∃ members, b.hold? h = some (.group members) ∧ m ∈ members

omit [DecidableEq τ] in
theorem contains_of_setHold_none {b : Board τ} {h g m : Handle}
    (hm : (b.setHold h none).Contains g m) : b.Contains g m := by
  obtain ⟨members, hold, hmem⟩ := hm
  rw [hold?_setHold_none] at hold
  split at hold
  · cases hold
  · exact ⟨members, hold, hmem⟩

namespace Disposal

variable {b b' : Board τ} {other : Handle} {hs released : List Handle}

/-- Groups hold no more than before. -/
theorem contains (d : Disposal b hs released b') {g m : Handle} (hm : b'.Contains g m) :
    b.Contains g m := by
  obtain ⟨members, hold, hmem⟩ := hm
  rcases d.hold?_eq_or g with heq | heq
  · exact ⟨members, heq.symm.trans hold, hmem⟩
  · rw [heq] at hold
    cases hold

/-- Only what can be reached is disposed. -/
theorem reached (d : Disposal b hs released b') (alive : b.hold? other ≠ none)
    (gone : b'.hold? other = none) : ∃ h ∈ hs, Relation.ReflTransGen b.Contains h other := by
  induction d with
  | nil => exact absurd gone alive
  | skip _ _ ih =>
    obtain ⟨h, hmem, hpath⟩ := ih alive gone
    exact ⟨h, List.mem_cons_of_mem _ hmem, hpath⟩
  | @release b b' h' _ _ _ _ _ _ ih =>
    by_cases heq : other = h'
    · exact ⟨h', List.mem_cons_self, heq ▸ .refl⟩
    · obtain ⟨h, hmem, hpath⟩ :=
        ih (by rwa [hold?_remove, hold?_setHold_none, if_neg heq]) gone
      exact ⟨h, List.mem_cons_of_mem _ hmem,
        Relation.ReflTransGen.mono (fun _ _ => contains_of_setHold_none) _ _ hpath⟩
  | @descend b mid b' h' _ members _ _ hold inside _ ihInside ih =>
    by_cases heq : other = h'
    · exact ⟨h', List.mem_cons_self, heq ▸ .refl⟩
    · have hstart : (b.setHold h' none).hold? other ≠ none := by
        rwa [hold?_setHold_none, if_neg heq]
      by_cases hmid : mid.hold? other = none
      · obtain ⟨m, hmem, hpath⟩ := ihInside hstart hmid
        exact ⟨h', List.mem_cons_self, .head ⟨members, hold, hmem⟩
          (Relation.ReflTransGen.mono (fun _ _ => contains_of_setHold_none) _ _ hpath)⟩
      · obtain ⟨h, hmem, hpath⟩ := ih hmid gone
        exact ⟨h, List.mem_cons_of_mem _ hmem, Relation.ReflTransGen.mono
          (fun _ _ hm => contains_of_setHold_none (inside.contains hm)) _ _ hpath⟩

/-- The handles that took their listeners out are those with a listener that were disposed. A group
has none. -/
theorem mem_released_iff (d : Disposal b hs released b') :
    other ∈ released ↔ (∃ channel id, b.Holds other channel id) ∧ b'.hold? other = none := by
  induction d with
  | nil b =>
    simp only [List.not_mem_nil, false_iff, not_and]
    rintro ⟨channel, id, hold⟩ gone
    rw [Holds, gone] at hold
    cases hold
  | skip _ _ ih => exact ih
  | @release b b' h _ _ channel id hold rest ih =>
    rw [List.mem_cons, ih]
    simp only [Holds, hold?_remove, hold?_setHold_none]
    by_cases heq : other = h
    · subst heq
      exact iff_of_true (.inl rfl)
        ⟨⟨channel, id, hold⟩, rest.hold?_eq_none (hold?_setHold_none_self _ _)⟩
    · simp [heq]
  | @descend b mid b' h _ _ _ _ hold inside rest ihInside ih =>
    rw [List.mem_append, ihInside, ih]
    simp only [Holds, hold?_setHold_none]
    by_cases heq : other = h
    · subst heq
      have hmid := inside.hold?_eq_none (hold?_setHold_none_self b other)
      simp [hold, hmid]
    · rw [if_neg heq]
      have hstart := inside.hold?_eq_or other
      rw [hold?_setHold_none, if_neg heq] at hstart
      rcases hstart with hmid | hmid
      · rw [hmid]
        refine or_iff_right_of_imp fun hgone => ?_
        obtain ⟨⟨channel, id, hlisten⟩, hnone⟩ := hgone
        rw [hnone] at hlisten
        cases hlisten
      · simp [hmid, rest.hold?_eq_none hmid]

/-- No handle takes its listener out twice. -/
theorem nodup (d : Disposal b hs released b') : released.Nodup := by
  induction d with
  | nil => exact .nil
  | skip _ _ ih => exact ih
  | @release b b' h _ _ _ _ _ rest ih =>
    refine List.nodup_cons.mpr ⟨fun hmem => ?_, ih⟩
    obtain ⟨⟨channel, id, hold⟩, -⟩ := rest.mem_released_iff.mp hmem
    rw [Holds, hold?_remove, hold?_setHold_none_self] at hold
    cases hold
  | descend _ inside rest ihInside ih =>
    refine List.nodup_append.mpr ⟨ihInside, ih, fun x hinner y hreleased heq => ?_⟩
    subst heq
    obtain ⟨⟨channel, id, hold⟩, -⟩ := rest.mem_released_iff.mp hreleased
    rw [Holds, (inside.mem_released_iff.mp hinner).2] at hold
    cases hold

end Disposal

end Typeset.Events.Board
