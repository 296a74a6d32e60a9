import Typeset.Path

/-!
# Written paths

A path whose components are what reading leaves of a text is read back from its text, so two such
paths that are written the same are the same. What is done with paths keeps to such components.

## Main definitions

* `Path.IsComponent`, `Path.IsClean`: what reading leaves of a text

## Main results

* `Path.ofText_text`: a clean path is read back
* `Path.eq_of_str_eq`: clean paths are told apart by how they are written
* `Path.isClean_ofText`, `Path.IsClean.resolve`: paths that are clean
* `Path.join_ofText`: a component seen from a directory
-/

namespace Typeset

/-! ## Pieces of a text -/

namespace Text

theorem splitOn_of_not_mem {sep : Char} {w : Text} (h : sep ∉ w) : splitOn sep w = [w] := by
  induction w with
  | nil => rfl
  | cons c w ih =>
    simp only [splitOn, if_neg (List.ne_of_not_mem_cons h).symm,
      ih (List.not_mem_of_not_mem_cons h)]

theorem splitOn_append_cons {sep : Char} {w : Text} (h : sep ∉ w) (t : Text) :
    splitOn sep (w ++ sep :: t) = w :: splitOn sep t := by
  induction w with
  | nil => simp only [List.nil_append, splitOn, if_true]
  | cons c w ih =>
    simp only [List.cons_append, splitOn, if_neg (List.ne_of_not_mem_cons h).symm,
      ih (List.not_mem_of_not_mem_cons h)]

/-- Pieces that were put together are found again. -/
theorem splitOn_joinWith {sep : Char} {ws : List Text} (hne : ws ≠ []) (h : ∀ w ∈ ws, sep ∉ w) :
    splitOn sep (joinWith [sep] ws) = ws := by
  induction ws with
  | nil => exact absurd rfl hne
  | cons w ws ih =>
    obtain ⟨hw, hws⟩ := List.forall_mem_cons.mp h
    by_cases hnil : ws = []
    · rw [hnil, joinWith, splitOn_of_not_mem hw]
    · rw [joinWith_cons hnil, List.append_assoc, List.singleton_append, splitOn_append_cons hw,
        ih hnil hws]

theorem not_mem_of_mem_splitOn {sep : Char} {t w : Text} (h : w ∈ splitOn sep t) : sep ∉ w := by
  induction t generalizing w with
  | nil => simp_all [splitOn]
  | cons c t ih =>
    rw [splitOn] at h
    split at h
    · rcases List.mem_cons.mp h with rfl | h
      · exact List.not_mem_nil
      · exact ih h
    · next hc =>
      split at h
      · next hnil => exact absurd hnil (splitOn_ne_nil sep t)
      · next w' ws hcons =>
        rw [hcons] at ih
        rcases List.mem_cons.mp h with rfl | h
        · exact List.not_mem_cons_of_ne_of_not_mem (Ne.symm hc) (ih List.mem_cons_self)
        · exact ih (List.mem_cons_of_mem _ h)

end Text

namespace Path

/-! ## Clean paths -/

/-- What reading a path leaves as a component. -/
def IsComponent (n : Text) : Prop := n ≠ [] ∧ n ≠ dot ∧ '/' ∉ n

/-- A path with such components. -/
def IsClean (p : Path) : Prop := ∀ n ∈ p.parts, IsComponent n

theorem isClean_ofText (t : Text) : (ofText t).IsClean := by
  intro n hn
  obtain ⟨hmem, hkept⟩ := List.mem_filter.mp hn
  have hkept : n ≠ [] ∧ n ≠ dot := by simpa using hkept
  exact ⟨hkept.1, hkept.2, Text.not_mem_of_mem_splitOn hmem⟩

theorem mem_collapse {anchored : Bool} {seen names : List Text} {n : Text}
    (h : n ∈ collapse anchored seen names) : n ∈ seen ∨ n ∈ names := by
  induction names generalizing seen with
  | nil => exact .inl (List.mem_reverse.mp h)
  | cons m names ih =>
    unfold collapse at h
    have hnext {seen' : List Text} (h : n ∈ collapse anchored seen' names)
        (hseen : n ∈ seen' → n ∈ seen ∨ n = m) : n ∈ seen ∨ n ∈ m :: names := by
      rcases ih h with h | h
      · exact (hseen h).imp_right fun hm => by rw [hm]; exact List.mem_cons_self
      · exact .inr (List.mem_cons_of_mem _ h)
    split at h
    · next hm =>
      subst hm
      cases seen with
      | nil =>
        refine hnext h fun h => .inr ?_
        cases anchored <;> simp_all
      | cons s rest =>
        refine hnext h fun h => ?_
        split at h
        · next hs => simpa [hs, or_comm] using h
        · exact .inl (List.mem_cons_of_mem _ h)
    · exact hnext h fun h => (List.mem_cons.mp h).symm

theorem IsClean.resolve {directory candidate : Path} (hd : directory.IsClean)
    (hc : candidate.IsClean) : (directory.resolve candidate).IsClean := by
  intro n hn
  rcases mem_collapse hn with h | h
  · cases h
  · rw [join] at h
    split at h
    · rcases List.mem_append.mp h with h | h
      · exact hd n h
      · exact hc n h
    · exact hc n h

/-! ## Reading what was written -/

theorem parts_ofText_slash (t : Text) : (ofText ('/' :: t)).parts = (ofText t).parts := by
  simp [ofText, Text.splitOn]

theorem parts_ofText_joinWith {parts : List Text} (h : ∀ n ∈ parts, IsComponent n) :
    (ofText (Text.joinWith ['/'] parts)).parts = parts := by
  by_cases hnil : parts = []
  · subst hnil
    rfl
  · rw [ofText, Text.splitOn_joinWith hnil fun n hn => (h n hn).2.2]
    exact List.filter_eq_self.mpr fun n hn => by simp [(h n hn).1, (h n hn).2.1]

/-- Components that are put together do not begin with a slash. -/
theorem takeWhile_joinWith {parts : List Text} (h : ∀ n ∈ parts, IsComponent n) :
    (Text.joinWith ['/'] parts).takeWhile (· = '/') = [] := by
  cases parts with
  | nil => rfl
  | cons n parts =>
    obtain ⟨hne, -, hslash⟩ := h n List.mem_cons_self
    obtain ⟨c, n, rfl⟩ := List.exists_cons_of_ne_nil hne
    have hc : c ≠ '/' := fun hc => hslash (hc ▸ List.mem_cons_self)
    cases parts <;> simp [Text.joinWith, hc]

/-- A clean path is read back. -/
theorem ofText_text {p : Path} (hp : p.IsClean) : ofText p.text = p := by
  obtain ⟨anchor, parts⟩ := p
  have hparts := parts_ofText_joinWith hp
  have htake := takeWhile_joinWith hp
  cases anchor with
  | relative =>
    by_cases hnil : parts = []
    · subst hnil
      rfl
    · rw [text, if_neg (by simp [hnil]), Anchor.text, List.nil_append, Path.mk.injEq]
      exact ⟨by rw [ofText, htake]; rfl, hparts⟩
  | root =>
    rw [text, if_neg (by simp), Anchor.text, List.singleton_append, Path.mk.injEq]
    exact ⟨by simp [ofText, htake, Anchor.ofSlashes], by rw [parts_ofText_slash, hparts]⟩
  | doubleRoot =>
    rw [text, if_neg (by simp), Anchor.text, List.cons_append, List.singleton_append, Path.mk.injEq]
    exact ⟨by simp [ofText, htake, Anchor.ofSlashes],
      by rw [parts_ofText_slash, parts_ofText_slash, hparts]⟩

/-- Clean paths are told apart by how they are written. -/
theorem eq_of_str_eq {p q : Path} (hp : p.IsClean) (hq : q.IsClean) (h : p.str = q.str) :
    p = q := by
  have htext : p.text = q.text := String.ofList_injective h
  rw [← ofText_text hp, htext, ofText_text hq]

/-! ## Names of files -/

@[simp] theorem name_child (p : Path) (n : Text) : (p.child n).name = n := by simp [name, child]

theorem IsClean.slash_not_mem_name {p : Path} (hp : p.IsClean) : '/' ∉ p.name := by
  unfold name
  cases h : p.parts.getLast? with
  | none => exact List.not_mem_nil
  | some n => exact (hp n (List.mem_of_getLast? h)).2.2

theorem mem_name_of_mem_stem {p : Path} {c : Char} (h : c ∈ p.stem) : c ∈ p.name := by
  unfold stem cutName at h
  split at h
  · next l r hcut =>
    split at h
    · exact h
    · unfold Text.breakOnLast? at hcut
      split at hcut
      · cases hcut
        exact List.mem_reverse.mp ((List.dropWhile_suffix _).mem
          (List.mem_of_mem_drop (List.mem_reverse.mp h)))
      · cases hcut
  · exact h

/-- A document with a name has a name without its suffix. -/
theorem stem_ne_nil {p : Path} (h : p.name ≠ []) : p.stem ≠ [] := by
  unfold stem cutName
  split
  · split
    · exact h
    · next hcut => simpa using (not_or.mp (by simpa using hcut)).1
  · exact h

/-- A component is found inside a directory. -/
theorem join_ofText {n : Text} (h : IsComponent n) (p : Path) : p.join (.ofText n) = p.child n := by
  obtain ⟨hne, hdot, hslash⟩ := h
  obtain ⟨c, n, rfl⟩ := List.exists_cons_of_ne_nil hne
  have hc : c ≠ '/' := fun hc => hslash (hc ▸ List.mem_cons_self)
  have htext : ofText (c :: n) = ⟨.relative, [c :: n]⟩ := by
    simp [ofText, hc, Anchor.ofSlashes, Text.splitOn_of_not_mem hslash, hdot]
  rw [htext]
  rfl

/-- A text without a slash names something inside a directory, or the directory itself. -/
theorem join_ofText_of_slash_not_mem {n : Text} (hne : n ≠ []) (hslash : '/' ∉ n) (p : Path) :
    p.join (.ofText n) = if n = dot then p else p.child n := by
  split
  · next hdot =>
    subst hdot
    have htext : ofText dot = ⟨.relative, []⟩ := rfl
    simp [htext, join]
  · next hdot => exact join_ofText ⟨hne, hdot, hslash⟩ p

end Path

end Typeset
