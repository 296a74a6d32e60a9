import Typeset.Log.Heading
import Typeset.Proofs.Text.Phrase

/-!
# Numerals

A number that is written in decimal digits is read back, whatever follows that is no digit, as
long as it has no more than nine digits.

## Main definitions

* `Text.numeral`: a number in decimal digits
* `Log.Heading.IsLineNumber`: the digits of a line number

## Main results

* `Text.exists_of_shortNumber?`: the digits of a number that is read
* `Log.Heading.wholeNumber?_eq_some_iff`: the line numbers that are read
* `Text.shortNumber?_numeral`, `Log.Heading.wholeNumber?_numeral`: a numeral is read back
-/

namespace Typeset

namespace Text

/-- The number in decimal digits. -/
def numeral (n : Nat) : Text := Nat.toDigits 10 n

theorem numeral_ne_nil (n : Nat) : numeral n ≠ [] := Nat.toDigits_ne_nil

theorem isDigit_of_mem_numeral {n : Nat} {c : Char} (h : c ∈ numeral n) : isDigit c :=
  isDigit_of_core (Nat.isDigit_of_mem_toDigits (by decide) (by decide) h)

theorem length_numeral_le {n : Nat} (h : n ≤ 999999999) : (numeral n).length ≤ 9 :=
  (Nat.length_toDigits_le_iff (by decide) (by decide)).mpr (by omega)

theorem number_append_singleton (t : Text) (c : Char) :
    number (t ++ [c]) = 10 * number t + (digitValue? c).getD 0 := by
  rw [number, List.foldl_append]
  rfl

theorem digitValue?_digitChar {d : Nat} (h : d < 10) : digitValue? d.digitChar = some d := by
  have hall : ∀ d < 10, digitValue? d.digitChar = some d := by decide
  exact hall d h

/-- The last digit stands for the remainder, the others for the quotient. -/
theorem number_numeral (n : Nat) : number (numeral n) = n := by
  induction n using Nat.strongRecOn with
  | ind n ih =>
    by_cases h : n < 10
    · rw [numeral, Nat.toDigits_of_lt_base h, number]
      simp [digitValue?_digitChar h]
    · rw [numeral, Nat.toDigits_of_base_le (by decide) (by omega), ← numeral,
        number_append_singleton, ih (n / 10) (by omega), digitValue?_digitChar (by omega)]
      simp only [Option.getD_some]
      omega

/-- A short run of digits is read as a number up to another character. -/
theorem shortNumber?_append {digits rest : Text} (hne : digits ≠ []) (hlength : digits.length ≤ 9)
    (hdigits : ∀ c ∈ digits, isDigit c) (hrest : ∀ c ∈ rest.head?, isDigit c = false) :
    shortNumber? (digits ++ rest) = some (number digits, rest) := by
  have hpos : 1 ≤ digits.length := List.length_pos_iff.mpr hne
  simp only [shortNumber?, takeWhile_append_of_head? hdigits hrest,
    dropWhile_append_of_head? hdigits hrest, hpos, hlength, decide_true, Bool.and_self, if_true]

theorem exists_of_shortNumber? {t rest : Text} {n : Nat} (h : shortNumber? t = some (n, rest)) :
    ∃ digits, t = digits ++ rest ∧ digits ≠ [] ∧ digits.length ≤ 9 ∧ (∀ c ∈ digits, isDigit c) ∧
      number digits = n := by
  unfold shortNumber? at h
  simp only [Bool.and_eq_true, decide_eq_true_eq] at h
  split at h
  · next hlength =>
    cases h
    exact ⟨t.takeWhile isDigit, List.takeWhile_append_dropWhile.symm,
      List.length_pos_iff.mp hlength.1, hlength.2, List.all_eq_true.mp List.all_takeWhile, rfl⟩
  · cases h

/-- A numeral is read back. -/
theorem shortNumber?_numeral {n : Nat} (h : n ≤ 999999999) {rest : Text}
    (hrest : ∀ c ∈ rest.head?, isDigit c = false) :
    shortNumber? (numeral n ++ rest) = some (n, rest) := by
  rw [shortNumber?_append (numeral_ne_nil n) (length_numeral_le h)
    (fun _ => isDigit_of_mem_numeral) hrest, number_numeral]

end Text

namespace Log.Heading

open Text

/-- The digits of a line number: one to nine. -/
structure IsLineNumber (digits : Text) : Prop where
  ne_nil : digits ≠ []
  length_le : digits.length ≤ 9
  digit : ∀ c ∈ digits, isDigit c

/-- A line number is read where no word goes on. -/
theorem wholeNumber?_eq_some_iff {t rest : Text} {n : Nat} :
    wholeNumber? t = some (n, rest) ↔
      ∃ digits, IsLineNumber digits ∧ t = digits ++ rest ∧ startsWord rest = false ∧
        number digits = n := by
  constructor
  · intro h
    simp only [wholeNumber?, Option.bind_eq_bind, Option.bind_eq_some_iff] at h
    obtain ⟨⟨m, rest'⟩, hnumber, h⟩ := h
    obtain ⟨digits, rfl, hne, hlength, hdigits, rfl⟩ := exists_of_shortNumber? hnumber
    split at h
    · cases h
    · next hrest =>
      cases h
      exact ⟨digits, ⟨hne, hlength, hdigits⟩, rfl, by simpa using hrest, rfl⟩
  · rintro ⟨digits, hdigits, rfl, hrest, rfl⟩
    have hstop : ∀ c ∈ rest.head?, isDigit c = false := by
      cases rest with
      | nil => simp
      | cons c rest =>
        rintro _ ⟨⟩
        cases hc : isDigit c with
        | false => rfl
        | true => exact absurd (isWord_of_isDigit hc) (by simpa [startsWord] using hrest)
    have hnumber := shortNumber?_append hdigits.ne_nil hdigits.length_le hdigits.digit hstop
    simp [wholeNumber?, hnumber, hrest]

theorem isLineNumber_numeral {n : Nat} (h : n ≤ 999999999) : IsLineNumber (numeral n) where
  ne_nil := numeral_ne_nil n
  length_le := length_numeral_le h
  digit _ := isDigit_of_mem_numeral

/-- A numeral is read back where no word goes on. -/
theorem wholeNumber?_numeral {n : Nat} (h : n ≤ 999999999) {rest : Text}
    (hrest : startsWord rest = false) : wholeNumber? (numeral n ++ rest) = some (n, rest) :=
  wholeNumber?_eq_some_iff.mpr
    ⟨numeral n, isLineNumber_numeral h, rfl, hrest, number_numeral n⟩

end Log.Heading

end Typeset
