import Mathlib.Data.List.TakeWhile
import Typeset.Proofs.Text.Phrase
import Typeset.Text.Lines

/-!
# Headlines

The headline of a text is its first line with something on it, without the blanks around it. Every
line break is a blank, so trimming a text takes away the blank lines above its headline, and the
headline is found on the first line that is left. It is a single line, since the lines of a text
hold no line breaks.

## Main definitions

* `Text.headline?`: the headline of a text
* `Text.HeadedBy`: where it stands among the lines

## Main results

* `Text.isBlank_of_isLineBreak`: line breaks are blanks
* `Text.headedBy_splitLinesFrom`: the first line that is not blank
* `Text.splitLines_trim`: the headline is on the first line of the trimmed text
* `Text.single_of_headline?`: a headline is trimmed and a single line
-/

namespace Typeset

namespace Text

variable {t pad line m : Text}

theorem isBlank_of_isLineBreak {c : Char} (h : isLineBreak c = true) : isBlank c = true := by
  simp only [isLineBreak, isBlank, Bool.or_eq_true, Bool.and_eq_true, decide_eq_true_eq,
    beq_iff_eq] at h ⊢
  omega

/-! ## Trimming -/

theorem trim_eq (t : Text) : trim t = trimRight (trimLeft t) := rfl

theorem trimLeft_append (hpad : ∀ c ∈ pad, isBlank c = true) (t : Text) :
    trimLeft (pad ++ t) = trimLeft t := List.dropWhile_append_of_pos hpad

theorem trimRight_append (t : Text) (hpad : ∀ c ∈ pad, isBlank c = true) :
    trimRight (t ++ pad) = trimRight t := by
  rw [trimRight, dropEnd, List.reverse_append, List.dropWhile_append_of_pos (by simpa using hpad)]
  rfl

theorem trimRight_trimRight (t : Text) : trimRight (trimRight t) = trimRight t :=
  dropEnd_of_getLast? (getLast?_dropEnd isBlank t)

/-- A text ends with blanks that trimming takes away. -/
theorem exists_eq_trimRight_append (t : Text) :
    ∃ pad, t = trimRight t ++ pad ∧ ∀ c ∈ pad, isBlank c = true := by
  refine ⟨takeEnd isBlank t, (dropEnd_append_takeEnd isBlank t).symm, fun c hc => ?_⟩
  exact List.mem_takeWhile_imp (List.mem_reverse.mp hc)

/-- A text that is not blank begins with something else when it is trimmed. -/
theorem exists_trimLeft_eq_cons (ht : isBlankLine t = false) :
    ∃ c rest, trimLeft t = c :: rest ∧ isBlank c = false := by
  have hne : trimLeft t ≠ [] := by
    rw [trimLeft, ne_eq, List.dropWhile_eq_nil_iff]
    simpa [isBlankLine] using ht
  obtain ⟨c, rest, hcons⟩ := List.exists_cons_of_ne_nil hne
  refine ⟨c, rest, hcons, ?_⟩
  have hhead := List.head?_dropWhile_not isBlank t
  rw [← trimLeft, hcons] at hhead
  simpa using hhead

/-- What a text begins with stays if it is not blank. -/
theorem exists_trimRight_cons {c : Char} (hc : isBlank c = false) (t : Text) :
    ∃ rest, trimRight (c :: t) = c :: rest := by
  obtain ⟨pad, hpad, hblank⟩ := exists_eq_trimRight_append (c :: t)
  cases htrim : trimRight (c :: t) with
  | nil =>
    rw [htrim, List.nil_append] at hpad
    rw [hblank c (hpad ▸ List.mem_cons_self)] at hc
    cases hc
  | cons d rest =>
    rw [htrim, List.cons_append] at hpad
    exact ⟨rest, by rw [(List.cons.inj hpad).1]⟩

theorem trimLeft_cons {c : Char} (hc : isBlank c = false) (t : Text) : trimLeft (c :: t) = c :: t :=
  List.dropWhile_cons_of_neg (by simp [hc])

theorem exists_trim_eq_cons (ht : isBlankLine t = false) :
    ∃ c rest, trim t = c :: rest ∧ isBlank c = false := by
  obtain ⟨c, rest, hcons, hc⟩ := exists_trimLeft_eq_cons ht
  obtain ⟨rest', hcons'⟩ := exists_trimRight_cons hc rest
  exact ⟨c, rest', by rw [trim, hcons, hcons'], hc⟩

/-! ## The first of the lines -/

/-- The characters up to the first line break. -/
def upToBreak (t : Text) : Text := t.takeWhile fun c => !isLineBreak c

theorem upToBreak_cons {c : Char} (hc : isBlank c = false) (t : Text) :
    upToBreak (c :: t) = c :: upToBreak t := by
  refine List.takeWhile_cons_of_pos ?_
  rw [Bool.not_eq_true', ← Bool.not_eq_true]
  exact fun h => by simp [isBlank_of_isLineBreak h] at hc

/-- What is there before the first line break belongs to the line that is under way. -/
theorem exists_splitLinesFrom_eq_cons (h : line ≠ [] ∨ t ≠ []) :
    ∃ after, splitLinesFrom line t = (line.reverse ++ upToBreak t) :: after := by
  fun_induction splitLinesFrom line t with
  | case1 line hempty => simp_all
  | case2 line hline => exact ⟨[], by simp [upToBreak]⟩
  | case3 line t ih => exact ⟨splitLinesFrom [] t, by simp [upToBreak, isLineBreak]⟩
  | case4 line c t _ hc ih => exact ⟨splitLinesFrom [] t, by simp [upToBreak, hc]⟩
  | case5 line c t _ hc ih =>
    obtain ⟨after, hafter⟩ := ih (.inl (List.cons_ne_nil c line))
    exact ⟨after, by simp [hafter, upToBreak, hc]⟩

/-- A text without line breaks is a single line. -/
theorem splitLines_of_single (hne : t ≠ []) (h : ∀ c ∈ t, isLineBreak c = false) :
    splitLines t = [t] := by
  have hfrom (line : Text) (hne : line ≠ [] ∨ t ≠ []) :
      splitLinesFrom line t = [line.reverse ++ t] := by
    clear * - h hne
    fun_induction splitLinesFrom line t with
    | case1 line hempty => simp_all
    | case2 line hline => simp
    | case3 line t ih => cases h '\r' List.mem_cons_self
    | case4 line c t _ hc ih => simp [h c List.mem_cons_self] at hc
    | case5 line c t _ hc ih =>
      rw [ih (fun d hd => h d (List.mem_cons_of_mem c hd)) (.inl (List.cons_ne_nil c line))]
      simp
  exact hfrom [] (.inr hne)

/-! ## The headline -/

/-- The first line of the text that is not blank, without the blanks around it. -/
def headline? (t : Text) : Option Text := ((splitLines t).find? fun l => !isBlankLine l).map trim

/-- Below blank lines there is one that is `u` behind blanks. -/
inductive HeadedBy (u : Text) : List Text → Prop where
  | here {pad : Text} (hpad : ∀ c ∈ pad, isBlank c = true) (after : List Text) :
    HeadedBy u ((pad ++ u) :: after)
  | under {line : Text} (hline : isBlankLine line = true) {lines : List Text}
    (h : HeadedBy u lines) : HeadedBy u (line :: lines)

/-- The headline is what is behind the blanks. -/
theorem HeadedBy.find?_map_trim {u : Text} {lines : List Text} (h : HeadedBy u lines)
    (hu : isBlankLine u = false) :
    (lines.find? fun l => !isBlankLine l).map trim = some (trim u) := by
  induction h with
  | @here pad hpad after =>
    have hfull : isBlankLine (pad ++ u) = false := by
      rw [isBlankLine, List.all_append, ← isBlankLine, ← isBlankLine, hu, Bool.and_false]
    rw [List.find?_cons_of_pos (by simp [hfull]), Option.map_some, trim_eq, trimLeft_append hpad,
      trim_eq]
  | under hline _ ih => rw [List.find?_cons_of_neg (by simp [hline]), ih]

/-- The line on which the text begins is the first one that is not blank. The blanks of the line
that is under way may belong to it. -/
theorem headedBy_splitLinesFrom (hline : ∀ c ∈ line, isBlank c = true)
    (ht : isBlankLine t = false) :
    HeadedBy (upToBreak (trimLeft t)) (splitLinesFrom line t) := by
  have hblankLine {line : Text} (h : ∀ c ∈ line, isBlank c = true) :
      isBlankLine line.reverse = true := List.all_eq_true.mpr (by simpa using h)
  fun_induction splitLinesFrom line t with
  | case1 | case2 => cases ht
  | case3 line t ih => exact .under (hblankLine hline) (ih (List.forall_mem_nil _) ht)
  | case4 line c t _ hc ih =>
    have hblank := isBlank_of_isLineBreak hc
    have ht : isBlankLine t = false := by simpa [isBlankLine, hblank] using ht
    have htrim : trimLeft (c :: t) = trimLeft t := List.dropWhile_cons_of_pos hblank
    rw [htrim]
    exact .under (hblankLine hline) (ih (List.forall_mem_nil _) ht)
  | case5 line c t _ hc ih =>
    cases hblank : isBlank c with
    | true =>
      have ht : isBlankLine t = false := by simpa [isBlankLine, hblank] using ht
      have htrim : trimLeft (c :: t) = trimLeft t := List.dropWhile_cons_of_pos hblank
      rw [htrim]
      exact ih (List.forall_mem_cons.mpr ⟨hblank, hline⟩) ht
    | false =>
      obtain ⟨after, hafter⟩ := exists_splitLinesFrom_eq_cons (t := t)
        (.inl (List.cons_ne_nil c line))
      have hhere : splitLinesFrom (c :: line) t =
          (line.reverse ++ upToBreak (trimLeft (c :: t))) :: after := by
        rw [hafter, trimLeft_cons hblank, upToBreak_cons hblank, List.reverse_cons,
          List.append_assoc, List.singleton_append]
      rw [hhere]
      exact .here (by simpa using hline) after

/-- The headline of a text with something on it. -/
theorem headline?_eq_some (ht : isBlankLine t = false) :
    headline? t = some (trim (upToBreak (trimLeft t))) := by
  obtain ⟨c, rest, hcons, hc⟩ := exists_trimLeft_eq_cons ht
  have hfull : isBlankLine (upToBreak (trimLeft t)) = false := by
    rw [hcons, upToBreak_cons hc, isBlankLine, List.all_cons, hc, Bool.false_and]
  exact (headedBy_splitLinesFrom (List.forall_mem_nil _) ht).find?_map_trim hfull

/-- The blanks at the end of a text are not on the first line, or at its end. -/
theorem trimRight_upToBreak_trimRight (t : Text) :
    trimRight (upToBreak (trimRight t)) = trimRight (upToBreak t) := by
  obtain ⟨pad, hpad, hblank⟩ := exists_eq_trimRight_append t
  conv_rhs => rw [hpad, upToBreak, List.takeWhile_append]
  split
  · next hall =>
    rw [trimRight_append _ fun c hc => hblank c ((List.takeWhile_prefix _).subset hc), upToBreak,
      (List.takeWhile_prefix _).eq_of_length hall]
  · rfl

/-- The headline is on the first line that is left when the text is trimmed. -/
theorem splitLines_trim (ht : isBlankLine t = false) :
    ∃ first after, splitLines (trim t) = first :: after ∧ headline? t = some (trim first) := by
  obtain ⟨c, rest, hcons, hc⟩ := exists_trimLeft_eq_cons ht
  obtain ⟨rest', hcons'⟩ := exists_trimRight_cons hc rest
  have hne : ([] : Text) ≠ [] ∨ trim t ≠ [] := by
    rw [trim, hcons, hcons']
    exact .inr (List.cons_ne_nil c rest')
  obtain ⟨after, hafter⟩ := exists_splitLinesFrom_eq_cons hne
  refine ⟨upToBreak (trim t), after, hafter, ?_⟩
  have hleft : trimLeft (upToBreak (trimLeft t)) = upToBreak (trimLeft t) := by
    rw [hcons, upToBreak_cons hc, trimLeft_cons hc]
  have hleft' : trimLeft (upToBreak (trim t)) = upToBreak (trim t) := by
    rw [trim, hcons, hcons', upToBreak_cons hc, trimLeft_cons hc]
  rw [headline?_eq_some ht, trim_eq (upToBreak (trimLeft t)), hleft, trim_eq (upToBreak (trim t)),
    hleft', trim_eq t, trimRight_upToBreak_trimRight]

/-- A headline is trimmed and a single line. -/
theorem single_of_headline? (h : headline? t = some m) :
    m ≠ [] ∧ trim m = m ∧ splitLines m = [m] := by
  obtain ⟨line, hfind, rfl⟩ := Option.map_eq_some_iff.mp h
  have hline : isBlankLine line = false := by simpa using List.find?_some hfind
  obtain ⟨c, rest, htrim, hc⟩ := exists_trim_eq_cons hline
  have hne : trim line ≠ [] := by
    rw [htrim]
    exact List.cons_ne_nil c rest
  have hleft : trimLeft (trim line) = trim line := by rw [htrim, trimLeft_cons hc]
  refine ⟨hne, ?_, splitLines_of_single hne fun d hd => ?_⟩
  · rw [trim_eq (trim line), hleft, trim_eq line, trimRight_trimRight]
  · have hd : d ∈ line := (List.dropWhile_suffix _).subset ((dropEnd_isPrefix isBlank _).subset hd)
    exact splitLines_single (List.mem_of_find?_eq_some hfind) d hd

end Text

end Typeset
