import Mathlib.Data.List.Basic
import Typeset.Text.Blank
import Typeset.Text.Digit

/-!
# Phrases

A phrase is a text that squeezing leaves as it is: words with single spaces between them. Where a
phrase is cut at one of its spaces, or behind and in front of other characters, the pieces are
phrases again.

## Main definitions

* `Text.IsPhrase`: a text of words with single spaces between them
* `Text.Spaced`: the same, said of each blank

## Main results

* `Text.isPhrase_iff_exists_words`: phrases are what words are joined to
* `Text.IsPhrase.spaced`: each blank of a phrase is a space between two other characters
* `Text.Spaced.isPhrase`: only such texts are phrases
* `Text.IsPhrase.append_space`: two phrases with a space between them are a phrase
-/

namespace Typeset

namespace Text

variable {p : Char → Bool} {t u v : Text}

/-! ## Ends of a text -/

theorem dropWhile_of_head? (h : ∀ c ∈ t.head?, p c = false) : t.dropWhile p = t := by
  cases t with
  | nil => rfl
  | cons c t => rw [List.dropWhile_cons, if_neg (by simp [h c rfl])]

theorem takeWhile_of_head? (h : ∀ c ∈ t.head?, p c = false) : t.takeWhile p = [] := by
  cases t with
  | nil => rfl
  | cons c t => rw [List.takeWhile_cons, if_neg (by simp [h c rfl])]

theorem dropWhile_append_of_head? (hu : ∀ c ∈ u, p c) (hv : ∀ c ∈ v.head?, p c = false) :
    (u ++ v).dropWhile p = v := by
  rw [List.dropWhile_append_of_pos hu, dropWhile_of_head? hv]

theorem takeWhile_append_of_head? (hu : ∀ c ∈ u, p c) (hv : ∀ c ∈ v.head?, p c = false) :
    (u ++ v).takeWhile p = u := by
  rw [List.takeWhile_append_of_pos hu, takeWhile_of_head? hv, List.append_nil]

theorem dropEnd_append_of_getLast? (hu : ∀ c ∈ u.getLast?, p c = false) (hv : ∀ c ∈ v, p c) :
    dropEnd p (u ++ v) = u := by
  rw [dropEnd, List.reverse_append, dropWhile_append_of_head?, List.reverse_reverse]
  · simpa using hv
  · simpa using hu

theorem takeEnd_append_of_getLast? (hu : ∀ c ∈ u.getLast?, p c = false) (hv : ∀ c ∈ v, p c) :
    takeEnd p (u ++ v) = v := by
  rw [takeEnd, List.reverse_append, takeWhile_append_of_head?, List.reverse_reverse]
  · simpa using hv
  · simpa using hu

theorem dropEnd_of_getLast? (h : ∀ c ∈ t.getLast?, p c = false) : dropEnd p t = t := by
  simpa using dropEnd_append_of_getLast? (v := []) h (by simp)

theorem dropEnd_isPrefix (p : Char → Bool) (t : Text) : dropEnd p t <+: t :=
  ⟨takeEnd p t, dropEnd_append_takeEnd p t⟩

theorem getLast?_dropEnd (p : Char → Bool) (t : Text) :
    ∀ c ∈ (dropEnd p t).getLast?, p c = false := by
  intro c hc
  rw [dropEnd, List.getLast?_reverse] at hc
  have hhead := List.head?_dropWhile_not p t.reverse
  rw [Option.mem_def.mp hc] at hhead
  simpa using hhead

theorem startsBlank_eq_false_iff : startsBlank t = false ↔ ∀ c ∈ t.head?, isBlank c = false := by
  cases t <;> simp [startsBlank]

theorem startsBlank_append_of_ne_nil (h : u ≠ []) (v : Text) :
    startsBlank (u ++ v) = startsBlank u := by
  cases u with
  | nil => exact absurd rfl h
  | cons c u => rfl

/-- No digit is a blank. Each zero has its ten digits behind it, one after the other. -/
theorem isBlank_of_isDigit {c : Char} (h : isDigit c) : isBlank c = false := by
  have hall : ∀ z ∈ digitZeros, ∀ k < 10, isBlank (Char.ofNat (z + k)) = false := by decide +kernel
  obtain ⟨z, hz, hc⟩ : ∃ z ∈ digitZeros, z ≤ c.toNat ∧ c.toNat < z + 10 := by
    simpa [isDigit, digitValue?] using h
  have hk := hall z hz (c.toNat - z) (by omega)
  rwa [show z + (c.toNat - z) = c.toNat by omega, Char.ofNat_toNat] at hk

/-! ## Words and phrases -/

/-- The text is its words with single spaces between them. -/
def IsPhrase (t : Text) : Prop := squeeze t = t

instance (t : Text) : Decidable (IsPhrase t) := inferInstanceAs (Decidable (_ = _))

/-- A run of characters that are no blanks. -/
def IsToken (w : Text) : Prop := w ≠ [] ∧ ∀ c ∈ w, isBlank c = false

instance (w : Text) : Decidable (IsToken w) :=
  decidable_of_iff (w ≠ [] ∧ w.all (!isBlank ·)) (by simp [IsToken])

theorem consWord_append (w : Text) (ws ws' : List Text) :
    consWord w (ws ++ ws') = consWord w ws ++ ws' := by
  unfold consWord
  split <;> rfl

theorem wordsFrom_append_blank (u : Text) {b : Char} (hb : isBlank b) (v : Text) :
    wordsFrom (u ++ b :: v) = ((wordsFrom u).1, (wordsFrom u).2 ++ words v) := by
  induction u with
  | nil => simp only [List.nil_append, wordsFrom, hb, if_true, words]
  | cons c u ih =>
    simp only [List.cons_append, wordsFrom, ih]
    split
    · rw [consWord_append]
    · rfl

/-- A blank ends a word. -/
theorem words_append_blank (u : Text) {b : Char} (hb : isBlank b) (v : Text) :
    words (u ++ b :: v) = words u ++ words v := by
  rw [words, wordsFrom_append_blank u hb, consWord_append, ← words]

theorem wordsFrom_of_not_blank {w : Text} (h : ∀ c ∈ w, isBlank c = false) :
    wordsFrom w = (w, []) := by
  induction w with
  | nil => rfl
  | cons c w ih =>
    obtain ⟨hc, hw⟩ := List.forall_mem_cons.mp h
    simp [wordsFrom, ih hw, hc]

theorem IsToken.words {w : Text} (h : IsToken w) : words w = [w] := by
  rw [Text.words, wordsFrom_of_not_blank h.2, consWord, if_neg (by simpa using h.1)]

theorem joinWith_append {sep : Text} {ws ws' : List Text} (h : ws ≠ []) (h' : ws' ≠ []) :
    joinWith sep (ws ++ ws') = joinWith sep ws ++ sep ++ joinWith sep ws' := by
  induction ws with
  | nil => exact absurd rfl h
  | cons w ws ih =>
    by_cases hws : ws = []
    · subst hws
      rw [List.singleton_append, joinWith_cons h']
      rfl
    · rw [List.cons_append, joinWith_cons (by simp [hws]), ih hws, joinWith_cons hws]
      simp only [List.append_assoc]

theorem words_joinWith {ws : List Text} (h : ∀ w ∈ ws, IsToken w) :
    words (joinWith [' '] ws) = ws := by
  induction ws with
  | nil => rfl
  | cons w ws ih =>
    obtain ⟨hw, hws⟩ := List.forall_mem_cons.mp h
    by_cases hnil : ws = []
    · rw [hnil]
      exact hw.words
    · rw [joinWith_cons hnil, List.append_assoc, List.singleton_append,
        words_append_blank _ (by decide), hw.words, ih hws, List.singleton_append]

theorem words_squeeze (t : Text) : words (squeeze t) = words t :=
  words_joinWith fun _ hw => not_isBlank_of_mem_words hw

theorem isPhrase_squeeze (t : Text) : IsPhrase (squeeze t) := by
  rw [IsPhrase, squeeze, words_squeeze, squeeze]

/-- A text that is not blank has words. -/
theorem words_ne_nil_of_mem {c : Char} (hc : c ∈ t) (hb : isBlank c = false) : words t ≠ [] := by
  induction t with
  | nil => cases hc
  | cons d t ih =>
    cases hd : isBlank d with
    | false => simp [words, wordsFrom, hd, consWord]
    | true =>
      have hcons : words (d :: t) = words t := by simp [words, wordsFrom, hd, consWord]
      rcases List.mem_cons.mp hc with rfl | hc
      · rw [hb] at hd
        cases hd
      · rw [hcons]
        exact ih hc

/-- A text is not squeezed to what a part of it is squeezed to, if words are left out. -/
theorem squeeze_append_blank_ne {u v : Text} {b c : Char} (hb : isBlank b) (hc : c ∈ u)
    (hcb : isBlank c = false) : squeeze (u ++ b :: v) ≠ squeeze v := by
  intro heq
  have hwords : words u ++ words v = words v := by
    rw [← words_append_blank u hb, ← words_squeeze, heq, words_squeeze]
  exact words_ne_nil_of_mem hc hcb (by simpa using hwords)

/-- Phrases are what words are joined to. -/
theorem isPhrase_iff_exists_words :
    IsPhrase t ↔ ∃ ws, (∀ w ∈ ws, IsToken w) ∧ t = joinWith [' '] ws := by
  constructor
  · intro h
    exact ⟨words t, fun w hw => not_isBlank_of_mem_words hw, h.symm⟩
  · rintro ⟨ws, hws, rfl⟩
    rw [IsPhrase, squeeze, words_joinWith hws]

theorem IsPhrase.words_ne_nil (h : IsPhrase t) (hne : t ≠ []) : words t ≠ [] := by
  intro hnil
  rw [IsPhrase, squeeze, hnil] at h
  exact hne h.symm

/-- Two phrases with a space between them are a phrase. -/
theorem IsPhrase.append_space (hu : IsPhrase u) (hune : u ≠ []) (hv : IsPhrase v) (hvne : v ≠ []) :
    IsPhrase (u ++ ' ' :: v) := by
  have hjoin : joinWith [' '] (words u ++ words v) = _ :=
    joinWith_append (hu.words_ne_nil hune) (hv.words_ne_nil hvne)
  rw [IsPhrase, squeeze, words_append_blank u (by decide) v, hjoin, ← squeeze, ← squeeze, hu, hv,
    List.append_assoc, List.singleton_append]

/-! ## Blanks in a phrase -/

/-- Each blank is a space, stands neither first nor last, and no other blank follows it. -/
def Spaced (t : Text) : Prop :=
  ∀ u b v, t = u ++ b :: v → isBlank b → b = ' ' ∧ u ≠ [] ∧ v ≠ [] ∧ startsBlank v = false

theorem IsToken.startsBlank {w : Text} (h : IsToken w) : startsBlank w = false :=
  startsBlank_eq_false_iff.mpr fun c hc => h.2 c (List.mem_of_mem_head? hc)

/-- A blank is the space behind the first word, or one further down. -/
theorem spaced_joinWith {ws : List Text} (h : ∀ w ∈ ws, IsToken w) :
    Spaced (joinWith [' '] ws) ∧ startsBlank (joinWith [' '] ws) = false := by
  induction ws with
  | nil => exact ⟨fun u b v heq => by simp [joinWith] at heq, rfl⟩
  | cons w ws ih =>
    obtain ⟨hw, hws⟩ := List.forall_mem_cons.mp h
    obtain ⟨hspaced, hstart⟩ := ih hws
    by_cases hnil : ws = []
    · subst hnil
      refine ⟨fun u b v heq hb => ?_, hw.startsBlank⟩
      have hbw : b ∈ w := by
        rw [show w = u ++ b :: v from heq]
        exact List.mem_append_right _ List.mem_cons_self
      exact absurd hb (by simp [hw.2 b hbw])
    · have hne : joinWith [' '] ws ≠ [] := fun hjoin => hnil (by
        rw [← words_joinWith hws, hjoin]
        rfl)
      rw [joinWith_cons hnil, List.append_assoc, List.singleton_append]
      refine ⟨fun u b v heq hb => ?_, by rw [startsBlank_append_of_ne_nil hw.1, hw.startsBlank]⟩
      rcases List.append_eq_append_iff.mp heq with ⟨x, rfl, hx⟩ | ⟨x, rfl, hx⟩
      · cases x with
        | nil =>
          obtain ⟨rfl, rfl⟩ := List.cons.inj hx
          exact ⟨rfl, by simpa using hw.1, hne, hstart⟩
        | cons c x =>
          obtain ⟨rfl, hrest⟩ := List.cons.inj hx
          obtain ⟨hb', -, hv, hstart'⟩ := hspaced x b v hrest hb
          exact ⟨hb', by simp, hv, hstart'⟩
      · cases x with
        | nil =>
          obtain ⟨rfl, rfl⟩ := List.cons.inj hx
          exact ⟨rfl, by simpa using hw.1, hne, hstart⟩
        | cons c x =>
          obtain ⟨rfl, -⟩ := List.cons.inj hx
          exact absurd hb (by simp [hw.2 b (by simp)])

/-- Each blank of a phrase is a space between two other characters. -/
theorem IsPhrase.spaced (h : IsPhrase t) : Spaced t := by
  obtain ⟨ws, hws, rfl⟩ := isPhrase_iff_exists_words.mp h
  exact (spaced_joinWith hws).1

namespace Spaced

theorem startsBlank (h : Spaced t) : startsBlank t = false := by
  cases t with
  | nil => rfl
  | cons c t =>
    cases hc : isBlank c with
    | false => exact hc
    | true => exact absurd rfl (h [] c t rfl hc).2.1

theorem getLast? (h : Spaced t) : ∀ c ∈ t.getLast?, isBlank c = false := by
  intro c hc
  obtain ⟨u, rfl⟩ := List.getLast?_eq_some_iff.mp hc
  cases hb : isBlank c with
  | false => rfl
  | true => exact absurd rfl (h u c [] rfl hb).2.2.1

theorem not_mem_lineFeed (h : Spaced t) : '\n' ∉ t := by
  intro hmem
  obtain ⟨u, v, heq⟩ := List.append_of_mem hmem
  exact absurd (h u _ v heq (by decide)).1 (by decide)

/-- The part of a spaced text behind which another character than a blank ends. -/
theorem left (h : Spaced (u ++ v)) (hu : ∀ c ∈ u.getLast?, isBlank c = false) : Spaced u := by
  intro x b y heq hb
  obtain ⟨hspace, hx, -, hstart⟩ := h x b (y ++ v) (by rw [heq]; simp) hb
  have hy : y ≠ [] := by
    rintro rfl
    exact absurd hb (by simp [hu b (by simp [heq])])
  rw [startsBlank_append_of_ne_nil hy] at hstart
  exact ⟨hspace, hx, hy, hstart⟩

/-- The part of a spaced text that begins with another character than a blank. -/
theorem right (h : Spaced (u ++ v)) (hv : Text.startsBlank v = false) : Spaced v := by
  intro x b y heq hb
  obtain ⟨hspace, -, hy, hstart⟩ := h (u ++ x) b y (by rw [heq]; simp) hb
  refine ⟨hspace, ?_, hy, hstart⟩
  rintro rfl
  rw [heq] at hv
  exact absurd hb (by simpa [Text.startsBlank] using hv)

/-- The parts of a spaced text around one of its spaces. -/
theorem of_append_space (h : Spaced (u ++ ' ' :: v)) : Spaced u ∧ u ≠ [] ∧ Spaced v ∧ v ≠ [] := by
  obtain ⟨-, hu, hv, hstart⟩ := h u ' ' v rfl (by decide)
  have hlast : ∀ c ∈ u.getLast?, isBlank c = false := by
    intro c hc
    obtain ⟨x, rfl⟩ := List.getLast?_eq_some_iff.mp hc
    cases hb : isBlank c with
    | false => rfl
    | true =>
      obtain ⟨-, -, -, hstart'⟩ := h x c (' ' :: v) (by simp) hb
      cases hstart'
  refine ⟨h.left hlast, hu, ?_, hv⟩
  rw [← List.singleton_append, ← List.append_assoc] at h
  exact h.right hstart

theorem trimRight (h : Spaced t) : trimRight t = t := dropEnd_of_getLast? h.getLast?

/-- Blanks in front of a spaced text are trimmed. -/
theorem trim_append {pad : Text} (h : Spaced t) (hpad : ∀ c ∈ pad, isBlank c) :
    trim (pad ++ t) = t := by
  have hstart := startsBlank_eq_false_iff.mp h.startsBlank
  rw [trim, Text.trimLeft, dropWhile_append_of_head? hpad hstart, h.trimRight]

end Spaced

theorem isPhrase_of_not_blank (h : ∀ c ∈ t, isBlank c = false) : IsPhrase t := by
  by_cases hnil : t = []
  · subst hnil
    rfl
  · have htoken : IsToken t := ⟨hnil, h⟩
    rw [IsPhrase, squeeze, htoken.words]
    rfl

/-- A text in which each blank is a space between two other characters is a phrase. It is cut at one
of its blanks. -/
theorem Spaced.isPhrase (h : Spaced t) : IsPhrase t := by
  induction hlen : t.length using Nat.strongRecOn generalizing t with
  | ind n ih =>
    by_cases hblank : ∃ c ∈ t, isBlank c
    · obtain ⟨c, hc, hb⟩ := hblank
      obtain ⟨u, v, rfl⟩ := List.append_of_mem hc
      obtain ⟨rfl, -⟩ := h u c v rfl hb
      obtain ⟨hu, hune, hv, hvne⟩ := h.of_append_space
      have hlength : (u ++ ' ' :: v).length = u.length + (v.length + 1) := by simp
      exact (ih u.length (by omega) hu rfl).append_space hune (ih v.length (by omega) hv rfl) hvne
    · refine isPhrase_of_not_blank fun c hc => ?_
      simpa using fun hb => hblank ⟨c, hc, hb⟩

/-- Behind a phrase and a space a phrase goes on if it is one itself. -/
theorem IsPhrase.append_space_iff (hu : IsPhrase u) (hune : u ≠ []) :
    IsPhrase (u ++ ' ' :: v) ↔ IsPhrase v ∧ v ≠ [] := by
  constructor
  · intro h
    obtain ⟨-, -, hv, hvne⟩ := h.spaced.of_append_space
    exact ⟨hv.isPhrase, hvne⟩
  · rintro ⟨hv, hvne⟩
    exact hu.append_space hune hv hvne

/-- A text with a space at its end is no phrase. -/
theorem not_isPhrase_append_space (t : Text) : ¬ IsPhrase (t ++ [' ']) := fun h =>
  absurd rfl h.spaced.of_append_space.2.2.2

/-- The front of a phrase, without the blank at its end, is a phrase. -/
theorem IsPhrase.trimRight_of_prefix (h : IsPhrase t) (hu : u <+: t) : IsPhrase (trimRight u) := by
  obtain ⟨v, hv⟩ := (dropEnd_isPrefix isBlank u).trans hu
  rw [← hv] at h
  exact (h.spaced.left (getLast?_dropEnd isBlank u)).isPhrase

end Text

end Typeset
