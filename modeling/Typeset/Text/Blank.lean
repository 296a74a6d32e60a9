import Typeset.Text.Basic

/-!
# Blanks

The white space of Unicode together with the four separator controls U+001C to U+001F, and the
functions that strip it, squeeze it and cut texts at it.

## Main definitions

* `Text.isBlank`: the class of white space
* `Text.trim`, `Text.trimLeft`, `Text.trimRight`: a text without blanks at its ends
* `Text.words`: the maximal runs of other characters
* `Text.squeeze`: the words with one space between neighbours

## Main results

* `Text.not_isBlank_of_mem_words`: words hold no blanks
-/

namespace Typeset

namespace Text

/-- Whether a character is white space. -/
def isBlank (c : Char) : Bool :=
  let n := c.toNat
  (9 ≤ n && n ≤ 13) || (28 ≤ n && n ≤ 32) || n == 0x85 || n == 0xA0 || n == 0x1680
    || (0x2000 ≤ n && n ≤ 0x200A) || n == 0x2028 || n == 0x2029 || n == 0x202F || n == 0x205F
    || n == 0x3000

/-- Whether every character is a blank. -/
def isBlankLine (t : Text) : Bool := t.all isBlank

/-- Whether the first character is a blank; false for the empty text. -/
def startsBlank : Text → Bool
  | [] => false
  | c :: _ => isBlank c

/-- The text from its first character that is not a blank. -/
def trimLeft (t : Text) : Text := t.dropWhile isBlank

/-- The text up to its last character that is not a blank. -/
def trimRight (t : Text) : Text := dropEnd isBlank t

/-- The text without blanks at either end. -/
def trim (t : Text) : Text := trimRight (trimLeft t)

/-- The number of blanks that the text begins with. -/
def indentation (t : Text) : Nat := (t.takeWhile isBlank).length

/-- A word in front of a list of words, left out when it is empty. -/
def consWord (w : Text) (ws : List Text) : List Text := if w.isEmpty then ws else w :: ws

/-- The run of other characters that the text begins with, and the words after it. -/
def wordsFrom : Text → Text × List Text
  | [] => ([], [])
  | c :: t =>
    let (w, ws) := wordsFrom t
    if isBlank c then ([], consWord w ws) else (c :: w, ws)

/-- The maximal runs of characters that are no blanks, in order. -/
def words (t : Text) : List Text := consWord (wordsFrom t).1 (wordsFrom t).2

theorem wordsFrom_fst_not_isBlank (t : Text) : ∀ c ∈ (wordsFrom t).1, isBlank c = false := by
  induction t with
  | nil => simp [wordsFrom]
  | cons c t ih =>
    unfold wordsFrom
    by_cases h : isBlank c
    · simp [h]
    · simpa [h] using ih

theorem wordsFrom_snd_not_isBlank (t : Text) :
    ∀ w ∈ (wordsFrom t).2, w ≠ [] ∧ ∀ c ∈ w, isBlank c = false := by
  induction t with
  | nil => simp [wordsFrom]
  | cons c t ih =>
    unfold wordsFrom
    by_cases h : isBlank c
    · simp only [h, ↓reduceIte, consWord]
      split
      · exact ih
      · next hw =>
        intro w hm
        rcases List.mem_cons.1 hm with rfl | hm
        · exact ⟨by simpa using hw, wordsFrom_fst_not_isBlank t⟩
        · exact ih w hm
    · simpa [h] using ih

theorem not_isBlank_of_mem_words {t w : Text} (h : w ∈ words t) :
    w ≠ [] ∧ ∀ c ∈ w, isBlank c = false := by
  unfold words consWord at h
  split at h
  · exact wordsFrom_snd_not_isBlank t w h
  · next hw =>
    rcases List.mem_cons.1 h with rfl | hm
    · exact ⟨by simpa using hw, wordsFrom_fst_not_isBlank t⟩
    · exact wordsFrom_snd_not_isBlank t w hm

/-- The words with single spaces between them: each run of blanks becomes one space, and the
blanks at the ends go. -/
def squeeze (t : Text) : Text := joinWith [' '] (words t)

end Text

end Typeset
