import Mathlib.Algebra.Order.Ring.Nat
import Typeset.Proofs.Log.Form
import Typeset.Proofs.Log.InputLine
import Typeset.Proofs.Text.Numeral

/-!
# Line numbers

A log may hold runs of digits of any length and in any script, and not each of them can be converted
to a number. Five places of a log are read as line numbers: the line of an error that names its
file, the first and the last line of a box, the number of a context line, and the input line of a
notice. At all of them only runs of one to nine digits are read, so the conversion never fails, and
the numbers are small.

## Main definitions

* `Text.int?`: the conversion of digits to a number, with the texts that it refuses
* `Text.ReadIn`: a number is converted from a short run of digits in a text
* `Log.Heading.numbers`: the line numbers of a heading

## Main results

* `Text.ReadIn.lt`: numbers that are read are small
* `Log.Heading.readIn_of_ofLine?`, `Log.readIn_of_contextLine?`, `Log.readIn_of_inputLine?`: what
  is read as a line number can be converted
-/

namespace Typeset

/-! ## Conversion -/

namespace Text

/-- The length of the longest text that is converted to a number. -/
def maxDigits : Nat := 4300

/-- The number that a text is converted to. A text that is empty, too long, or holds other
characters than digits is refused. -/
def int? (t : Text) : Option Nat :=
  if t ≠ [] ∧ t.length ≤ maxDigits ∧ t.all isDigit then some (number t) else none

/-- A number is converted from a run of at most nine digits in a text. -/
def ReadIn (t : Text) (n : Nat) : Prop :=
  ∃ digits, digits <:+: t ∧ digits.length ≤ 9 ∧ int? digits = some n

theorem number_lt (t : Text) : number t < 10 ^ t.length := by
  induction t using List.reverseRecOn with
  | nil => decide
  | append_singleton t c ih =>
    have hdigit : (digitValue? c).getD 0 ≤ 9 := by
      cases h : digitValue? c with
      | none => simp
      | some d => exact digitValue_le h
    rw [number_append_singleton, List.length_append, List.length_singleton, Nat.pow_succ]
    omega

theorem ReadIn.lt {t : Text} {n : Nat} (h : ReadIn t n) : n < 1000000000 := by
  obtain ⟨digits, -, hlength, hint⟩ := h
  unfold int? at hint
  split at hint
  · cases hint
    exact (number_lt digits).trans_le (Nat.pow_le_pow_right (by decide) hlength)
  · cases hint

theorem ReadIn.mono {t t' : Text} {n : Nat} (h : ReadIn t n) (ht : t <:+: t') : ReadIn t' n := by
  obtain ⟨digits, hdigits, h⟩ := h
  exact ⟨digits, hdigits.trans ht, h⟩

/-- A short run of digits can be converted. -/
theorem readIn_of_isInfix {t digits : Text} (ht : digits <:+: t) (hne : digits ≠ [])
    (hlength : digits.length ≤ 9) (hdigits : ∀ c ∈ digits, isDigit c) :
    ReadIn t (number digits) := by
  have hmax : digits.length ≤ maxDigits := hlength.trans (by decide)
  exact ⟨digits, ht, hlength, by rw [int?, if_pos ⟨hne, hmax, List.all_eq_true.mpr hdigits⟩]⟩

/-- Only a short run of digits is read as a number, and it can be converted. -/
theorem readIn_of_shortNumber? {t rest : Text} {n : Nat} (h : shortNumber? t = some (n, rest)) :
    ReadIn t n ∧ rest <:+ t := by
  obtain ⟨digits, rfl, hne, hlength, hdigits, rfl⟩ := exists_of_shortNumber? h
  exact ⟨readIn_of_isInfix (List.prefix_append digits rest).isInfix hne hlength hdigits,
    List.suffix_append digits rest⟩

theorem suffix_of_after? {p t rest : Text} (h : after? p t = some rest) : rest <:+ t :=
  ⟨p, (after?_eq_some_iff.mp h).symm⟩

end Text

namespace Log

open Text

/-! ## Headings -/

namespace Heading

/-- The line numbers of a heading. -/
def numbers : Heading → List Nat
  | .fileLine _ n _ _ => [n]
  | .box _ first last => first :: last.toList
  | _ => []

theorem readIn_of_sourceAndError? {t base : Text} {n : Nat} {origin : Option Text} {message : Text}
    (h : sourceAndError? t = some (base, n, origin, message)) : ReadIn t n := by
  obtain ⟨digits, rest, hnumbered, rfl, -, rfl⟩ := exists_of_sourceAndError? h
  exact readIn_of_isInfix ⟨base ++ sourceMark, ": ".toList ++ rest, by simp [lineText]⟩
    hnumbered.ne_nil hnumbered.length_le hnumbered.digit

theorem readIn_of_wholeNumber? {t rest : Text} {n : Nat} (h : wholeNumber? t = some (n, rest)) :
    ReadIn t n ∧ rest <:+ t := by
  obtain ⟨digits, hdigits, rfl, -, rfl⟩ := wholeNumber?_eq_some_iff.mp h
  exact ⟨readIn_of_isInfix (List.prefix_append digits rest).isInfix hdigits.ne_nil
    hdigits.length_le hdigits.digit, List.suffix_append digits rest⟩

theorem suffix_of_firstAfter? {starts : List Text} {t s rest : Text}
    (h : firstAfter? starts t = some (s, rest)) : rest <:+ t := by
  obtain ⟨s', -, hs⟩ := List.exists_of_findSome?_eq_some h
  obtain ⟨r, hr, heq⟩ := Option.map_eq_some_iff.mp hs
  cases heq
  exact suffix_of_after? hr

theorem readIn_of_boxLines? {t : Text} {first : Nat} {last : Option Nat}
    (h : boxLines? t = some (first, last)) : ∀ n ∈ first :: last.toList, ReadIn t n := by
  simp only [boxLines?, Option.bind_eq_bind, Option.bind_eq_some_iff] at h
  obtain ⟨⟨s, rest⟩, hstart, ⟨first', rest'⟩, hfirst, heq⟩ := h
  cases heq
  have hrest := (suffix_of_firstAfter? hstart).isInfix
  obtain ⟨hread, hrest'⟩ := readIn_of_wholeNumber? hfirst
  intro n hn
  rcases List.mem_cons.mp hn with rfl | hn
  · exact hread.mono hrest
  · obtain ⟨r, hr, hlast⟩ := Option.bind_eq_some_iff.mp (Option.mem_toList.mp hn)
    obtain ⟨⟨n', rest''⟩, hwhole, rfl⟩ := Option.map_eq_some_iff.mp hlast
    exact (readIn_of_wholeNumber? hwhole).1.mono
      (((suffix_of_after? hr).isInfix.trans hrest'.isInfix).trans hrest)

theorem readIn_of_box? {line head : Text} {first : Nat} {last : Option Nat}
    (h : box? line = some (.box head first last)) :
    ∀ n ∈ first :: last.toList, ReadIn line n := by
  simp only [box?, Option.bind_eq_bind, Option.bind_eq_some_iff] at h
  obtain ⟨⟨s, rest⟩, hstart, rest', hrest', ⟨first', last'⟩, hlines, heq⟩ := h
  cases heq
  obtain ⟨place, -, hplace⟩ := List.exists_of_findSome?_eq_some hlines
  obtain ⟨t, ht, hlines⟩ := Option.bind_eq_some_iff.mp hplace
  intro n hn
  exact (readIn_of_boxLines? hlines n hn).mono ((((suffix_of_after? ht).trans
    (suffix_of_after? hrest')).trans (List.dropWhile_suffix _)).trans
    (suffix_of_firstAfter? hstart)).isInfix

/-- The line numbers of a heading are read in its line. -/
theorem readIn_of_ofLine? {line : Text} {head : Heading} (h : ofLine? line = some head) :
    ∀ n ∈ head.numbers, ReadIn line n := by
  have hline := kind_of_ofLine? h
  cases head with
  | fileLine path n origin message =>
    simp only [kind, fileLine?, Option.bind_eq_bind, Option.bind_eq_some_iff] at hline
    obtain ⟨⟨base, m, found⟩, hfound, hhead⟩ := hline
    split at hhead
    · cases hhead
    · cases hhead
      simpa [numbers] using readIn_of_sourceAndError? hfound
  | box head first last => exact readIn_of_box? hline
  | _ => simp [numbers]

end Heading

/-! ## The lines behind a heading -/

/-- The number of a context line is read in it. -/
theorem readIn_of_contextLine? {line : Text} {n : Nat} (h : contextLine? line = some n) :
    ReadIn line n := by
  simp only [contextLine?, Option.bind_eq_bind, Option.bind_eq_some_iff] at h
  obtain ⟨rest, hrest, ⟨n', rest'⟩, hnumber, heq⟩ := h
  split at heq
  · cases heq
    exact (readIn_of_shortNumber? hnumber).1.mono (suffix_of_after? hrest).isInfix
  · cases heq

/-- The line number behind an error is that of a context line. The search ends at the first context
line, and may end earlier without a number. -/
theorem exists_contextLine?_of_errorTailFrom {indentedOnly inSnippet : Bool} {lines : List Text}
    {n : Nat} (h : (errorTailFrom indentedOnly inSnippet lines).line = some n) :
    ∃ line ∈ lines, contextLine? line = some n := by
  induction lines generalizing inSnippet with
  | nil => cases h
  | cons line rest ih =>
    have hlater {inSnippet' : Bool}
        (h : (errorTailFrom indentedOnly inSnippet' rest).line = some n) :
        ∃ line' ∈ line :: rest, contextLine? line' = some n := by
      obtain ⟨line', hmem, hline⟩ := ih h
      exact ⟨line', List.mem_cons_of_mem _ hmem, hline⟩
    rcases errorTailFrom_cons_cases indentedOnly inSnippet line rest with
      ⟨-, -, htail⟩ | ⟨-, -, htail⟩ | ⟨n', hcontext, htail⟩ | ⟨-, -, -, htail⟩ | ⟨-, -, -, htail⟩
    · rw [htail] at h
      exact hlater h
    · rw [htail] at h
      cases h
    · rw [htail] at h
      cases h
      exact ⟨line, List.mem_cons_self, hcontext⟩
    · rw [htail] at h
      exact hlater h
    · rw [htail] at h
      exact hlater h

/-- The input line of a notice is read in its text. -/
theorem readIn_of_inputLine? {t : Text} {n : Nat} (h : inputLine? t = some n) : ReadIn t n := by
  obtain ⟨before, digits, hfirst, rfl⟩ := inputLine?_eq_some_iff.mp h
  obtain ⟨hdigits, rest, rfl, -⟩ := hfirst.names
  refine readIn_of_isInfix ⟨before ++ inputLineMark, rest, ?_⟩ hdigits.ne_nil hdigits.length_le
    hdigits.digit
  simp only [List.append_assoc]

end Log

end Typeset
