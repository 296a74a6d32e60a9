import Mathlib.Data.List.Infix
import Typeset.Text.Basic

/-!
# Marks in a text

A mark is a text that is looked for in another one. It stands on one side of each character that it
does not hold. If its first character does not come again in it, it cannot begin in a text and end
in a mark that follows, so what is looked for first is found where it was put, and can be replaced
there.

## Main results

* `Text.isInfix_or_of_append_cons`, `Text.not_isInfix_of_parts`: marks and characters between them
* `Text.isPrefix_of_append_mark`: marks that do not overlap
* `Text.breakOn?_append_mark`, `Text.replace_append_mark`: such a mark is found and replaced
* `Text.replace_append_self`, `Text.replace_cons_of_not_isPrefix`: replacing, read from the left
-/

namespace Typeset

namespace Text

variable {p u v : Text} {c : Char}

/-! ## Characters that a mark does not hold -/

/-- A mark that a text begins with stands in front of each character that it does not hold. -/
theorem isPrefix_of_append_cons (hc : c ∉ p) (h : p <+: u ++ c :: v) : p <+: u := by
  rcases List.prefix_or_prefix_of_prefix h (List.prefix_append u (c :: v)) with hp | ⟨x, rfl⟩
  · exact hp
  · cases x with
    | nil => simp
    | cons d x =>
      obtain ⟨r, hr⟩ := h
      rw [List.append_assoc] at hr
      obtain ⟨rfl, -⟩ := List.cons.inj (List.append_cancel_left hr)
      exact absurd (by simp) hc

/-- A mark stands on one side of each character that it does not hold. -/
theorem isInfix_or_of_append_cons (hc : c ∉ p) (h : p <:+: u ++ c :: v) : p <:+: u ∨ p <:+: v := by
  induction u with
  | nil =>
    rcases List.infix_cons_iff.mp h with hp | hp
    · exact .inl (isPrefix_of_append_cons hc hp).isInfix
    · exact .inr hp
  | cons d u ih =>
    rcases List.infix_cons_iff.mp h with hp | hp
    · exact .inl (isPrefix_of_append_cons hc hp).isInfix
    · rcases ih hp with hp | hp
      · exact .inl (hp.trans (List.suffix_cons d u).isInfix)
      · exact .inr hp

theorem not_isInfix_of_mem (hc : c ∈ p) (ht : c ∉ u) : ¬ p <:+: u := fun h => ht (h.subset hc)

/-- A mark that is in none of three parts is not in the whole, if it does not hold the characters
between them. -/
theorem not_isInfix_of_parts {w : Text} {d : Char} (hc : c ∉ p) (hd : d ∉ p) (hu : ¬ p <:+: u)
    (hv : ¬ p <:+: v) (hw : ¬ p <:+: w) : ¬ p <:+: u ++ c :: (v ++ d :: w) := by
  intro h
  rcases isInfix_or_of_append_cons hc h with h | h
  · exact hu h
  · rcases isInfix_or_of_append_cons hd h with h | h
    · exact hv h
    · exact hw h

/-! ## Marks that do not overlap -/

/-- A mark whose first character does not come again ends in front of that character. Otherwise it
would go on with its own first character. -/
theorem isPrefix_of_append_mark (hc : c ∉ p) (hu : u ≠ []) (h : c :: p <+: u ++ c :: v) :
    c :: p <+: u := by
  rcases List.prefix_or_prefix_of_prefix h (List.prefix_append u (c :: v)) with hp | ⟨x, hx⟩
  · exact hp
  · cases x with
    | nil =>
      rw [← hx, List.append_nil]
    | cons d x =>
      obtain ⟨r, hr⟩ := h
      rw [← hx, List.append_assoc] at hr
      obtain ⟨rfl, -⟩ := List.cons.inj (List.append_cancel_left hr)
      obtain ⟨a, u, rfl⟩ := List.exists_cons_of_ne_nil hu
      obtain ⟨-, rfl⟩ := List.cons.inj hx
      exact absurd (by simp) hc

/-- Such a mark is found at the place where it was put. -/
theorem breakOn?_append_mark (hc : c ∉ p) (hu : ¬ c :: p <:+: u) (v : Text) :
    breakOn? (c :: p) (u ++ (c :: p ++ v)) = some (u, v) := by
  induction u with
  | nil =>
    rw [List.nil_append, List.cons_append, breakOn?, ← List.cons_append, after?_append]
  | cons a u ih =>
    have hnone : after? (c :: p) (a :: (u ++ (c :: p ++ v))) = none := by
      refine Option.eq_none_iff_forall_ne_some.mpr fun r hr => hu ?_
      have hpre : c :: p <+: (a :: u) ++ c :: (p ++ v) := ⟨r, (after?_eq_some_iff.mp hr).symm⟩
      exact (isPrefix_of_append_mark hc (List.cons_ne_nil a u) hpre).isInfix
    rw [List.cons_append, breakOn?, hnone, ih fun h => hu (h.trans (List.suffix_cons a u).isInfix)]
    rfl

theorem breakOn?_eq_none {sep t : Text} (h : ¬ sep <:+: t) : breakOn? sep t = none := by
  refine Option.eq_none_iff_forall_ne_some.mpr fun ⟨l, r⟩ hbreak => h ?_
  exact ⟨l, r, (eq_of_breakOn? hbreak).symm⟩

/-- Where no mark is found, nothing is replaced. -/
theorem replace_of_breakOn?_eq_none {old t new : Text} (h : breakOn? old t = none) :
    replace old new t = t := by
  rw [replace]
  cases t with
  | nil => rfl
  | cons c t => rw [List.length_cons, replaceWithin, h]

/-! ## Replacing from the left -/

section Replace

variable {old t l r : Text} (hold : old ≠ [])

include hold

/-- What is behind a mark is shorter than the whole. -/
theorem length_lt_of_breakOn? (hbreak : breakOn? old t = some (l, r)) : r.length < t.length := by
  have hpos := List.length_pos_iff.mpr hold
  rw [eq_of_breakOn? hbreak, List.length_append, List.length_append]
  omega

/-- There cannot be more marks than characters, so a larger bound changes nothing. -/
theorem replaceWithin_eq_replace (new : Text) {fuel : Nat} (hfuel : t.length ≤ fuel) :
    replaceWithin old new fuel t = replace old new t := by
  induction hn : t.length using Nat.strong_induction_on generalizing t fuel with
  | _ n ih =>
    rw [replace, hn]
    cases hbreak : breakOn? old t with
    | none =>
      cases fuel <;> cases n <;> simp only [replaceWithin, hbreak]
    | some found =>
      obtain ⟨l, r⟩ := found
      have hlength := length_lt_of_breakOn? hold hbreak
      obtain ⟨fuel, rfl⟩ : ∃ k, fuel = k + 1 := ⟨fuel - 1, by omega⟩
      obtain ⟨n, rfl⟩ : ∃ k, n = k + 1 := ⟨n - 1, by omega⟩
      simp only [replaceWithin, hbreak]
      rw [ih r.length (by omega) (by omega) rfl, ih r.length (by omega) (by omega) rfl]

/-- The first mark is replaced, and then those behind it. -/
theorem replace_of_breakOn? (new : Text) (hbreak : breakOn? old t = some (l, r)) :
    replace old new t = l ++ new ++ replace old new r := by
  have hlength := length_lt_of_breakOn? hold hbreak
  obtain ⟨n, hn⟩ : ∃ n, t.length = n + 1 := ⟨t.length - 1, by omega⟩
  rw [replace, hn, replaceWithin, hbreak]
  exact congrArg (l ++ new ++ ·) (replaceWithin_eq_replace hold new (by omega))

/-- A mark that a text begins with is replaced. -/
theorem replace_append_self (new t : Text) :
    replace old new (old ++ t) = new ++ replace old new t := by
  obtain ⟨c, u, rfl⟩ := List.exists_cons_of_ne_nil hold
  have hbreak : breakOn? (c :: u) (c :: u ++ t) = some ([], t) := by
    rw [List.cons_append, breakOn?, ← List.cons_append, after?_append]
  rw [replace_of_breakOn? hold new hbreak, List.nil_append]

/-- A character stays if no mark begins with it. -/
theorem replace_cons_of_not_isPrefix (new : Text) {c : Char} (hmark : ¬ old <+: c :: t) :
    replace old new (c :: t) = c :: replace old new t := by
  have hnone : after? old (c :: t) = none := by
    refine Option.eq_none_iff_forall_ne_some.mpr fun r hr => hmark ?_
    exact ⟨r, (after?_eq_some_iff.mp hr).symm⟩
  cases hbreak : breakOn? old t with
  | none =>
    have hwhole : breakOn? old (c :: t) = none := by
      rw [breakOn?, hnone, hbreak]
      rfl
    rw [replace_of_breakOn?_eq_none hwhole, replace_of_breakOn?_eq_none hbreak]
  | some found =>
    obtain ⟨l, r⟩ := found
    have hwhole : breakOn? old (c :: t) = some (c :: l, r) := by
      rw [breakOn?, hnone, hbreak]
      rfl
    rw [replace_of_breakOn? hold new hwhole, replace_of_breakOn? hold new hbreak]
    rfl

end Replace

/-- A mark that does not overlap with others, if it is there once, is replaced there. -/
theorem replace_append_mark (hc : c ∉ p) (hu : ¬ c :: p <:+: u) (hv : ¬ c :: p <:+: v)
    (new : Text) : replace (c :: p) new (u ++ (c :: p ++ v)) = u ++ new ++ v := by
  rw [replace_of_breakOn? (List.cons_ne_nil c p) new (breakOn?_append_mark hc hu v),
    replace_of_breakOn?_eq_none (breakOn?_eq_none hv)]

end Text

end Typeset
