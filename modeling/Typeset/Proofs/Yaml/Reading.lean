import Mathlib.Data.List.TakeWhile
import Typeset.Proofs.Yaml.Assembly
import Typeset.Yaml.Token

/-!
# Misfits where scalars and labels are read

Where a scalar, a label or a directive cannot be read to its end, a rule is broken, apart from two
cases: an escape names a code point beyond the last one, or a number in a version has too many
digits. Reading only moves on, so what is left to be read is always the end of the text, and both
cases can be pointed out in it.

## Main definitions

* `Yaml.Exceeds`: the two cases
* `Yaml.Source.Within`: what is left to be read is the end of a text
* `Yaml.Reads`: something is read, or one of the two cases is found

## Main results

* `Yaml.Quoted.reads_read`, `Yaml.Block.reads_read`, `Yaml.Plain.within_read`: scalars
* `Yaml.Label.reads_name`, `Yaml.Label.reads_tag`, `Yaml.Directive.reads_read`: what comes before
  nodes and documents
-/

namespace Typeset.Yaml

variable {α β : Type} {t : Text} {s : Source}

/-- The text asks for something beyond what there is, and how that fails. -/
inductive Exceeds (t : Text) : Misfit → Prop where
  /-- The digits of an escape stand for a code point beyond the last one. -/
  | escape {before digits after : Text} {letter : Char} {n : Nat} {m : Misfit}
      (ht : t = before ++ '\\' :: letter :: digits ++ after)
      (hletter : Quoted.escapeLengths.lookup letter = some digits.length)
      (hn : Text.hexNumber? digits = some n) (hm : Quoted.codePoint n = .error (.misfit m)) :
      Exceeds t m
  /-- A number in a version has too many digits. -/
  | version {before between digits after : Text}
      (ht : t = before ++ "%YAML".toList ++ between ++ digits ++ after)
      (hdigits : ∀ c ∈ digits, c.isDigit = true) (hmost : Directive.mostDigits < digits.length) :
      Exceeds t .value

/-! ## Moving on -/

namespace Source

/-- What is left to be read is the end of the text. -/
def Within (s : Source) (t : Text) : Prop := s.rest <:+ t

theorem rest_of_peek {c : Char} (h : s.peek = some c) : s.rest = c :: s.next.rest := by
  obtain ⟨r, hr⟩ := List.head?_eq_some_iff.mp h
  rw [rest_next, hr]
  rfl

namespace Within

theorem refl (s : Source) : s.Within s.rest := List.suffix_refl s.rest

theorem advance (h : s.Within t) (n : Nat) : (s.advance n).Within t := by
  rw [Within, rest_advance]
  exact (List.drop_suffix n s.rest).trans h

theorem next (h : s.Within t) : s.next.Within t := h.advance 1

theorem takeWhile (h : s.Within t) (p : Char → Bool) : (s.takeWhile p).2.Within t := h.advance _

theorem skipWhile (h : s.Within t) (p : Char → Bool) : (s.skipWhile p).Within t := h.takeWhile p

theorem skipSpaces (h : s.Within t) : s.skipSpaces.Within t := h.skipWhile _

theorem skipSpacesTo (h : s.Within t) (column : Nat) : (s.skipSpacesTo column).Within t :=
  h.advance _

theorem lineBreak (h : s.Within t) : s.lineBreak.2.Within t := by
  unfold Source.lineBreak
  split
  · exact h.advance 2
  · split
    · exact h.next
    split
    · exact h.next
    · exact h
  · exact h

theorem skipComment (h : s.Within t) : s.skipComment.Within t := by
  unfold Source.skipComment
  split
  · exact h.skipWhile _
  · exact h

end Within

end Source

open Source (Within)

/-- Something is read, and the source behind it is left. -/
abbrev Reads (t : Text) (x : Except Problem (α × Source)) : Prop :=
  Yields (Exceeds t) (fun r => r.2.Within t) x

theorem Reads.bind {Q : β → Prop} {x : Except Problem (α × Source)}
    {f : α × Source → Except Problem β} (hx : Reads t x)
    (hf : ∀ a s, s.Within t → Yields (Exceeds t) Q (f (a, s))) :
    Yields (Exceeds t) Q (x >>= f) :=
  Yields.bind hx fun r hr => hf r.1 r.2 hr

/-! ## Quoted scalars -/

namespace Quoted

theorem reads_breaksWithin (start : Mark) (fuel : Nat) (hs : s.Within t) :
    Reads t (breaksWithin start fuel s) := by
  induction fuel generalizing s with
  | zero => exact hs
  | succ fuel ih =>
    unfold breaksWithin
    split
    · exact trivial
    dsimp only
    split
    · exact (ih (hs.skipWhile isSpacer).lineBreak).bind fun _ _ hs => .pure hs
    · exact hs.skipWhile isSpacer

theorem reads_gap (start : Mark) (hs : s.Within t) : Reads t (gap start s) := by
  have hblanks := hs.takeWhile isSpacer
  unfold gap
  dsimp only
  split
  · exact trivial
  split
  · exact (reads_breaksWithin start _ hblanks.lineBreak).bind fun _ _ hs => .pure hs
  · exact hblanks

/-- The digits of a number are at the beginning of the text. -/
theorem exists_of_hexNumber {count n : Nat} {u : Text} (h : hexNumber count u = .ok n) :
    ∃ digits after, u = digits ++ after ∧ digits.length = count ∧
      Text.hexNumber? digits = some n := by
  unfold hexNumber at h
  dsimp only at h
  split at h
  · next n' hn =>
    split at h
    · cases h
    · next hcount =>
      cases h
      refine ⟨u.take count, u.drop count, (List.take_append_drop count u).symm, ?_, hn⟩
      have := List.length_take_le count u
      omega
  · cases h

/-- What is wrong with an escape, apart from broken rules, is its code point. The backslash, the
letter and its digits stand side by side in the text. -/
theorem reads_escape (start : Mark) (hs : '\\' :: s.rest <:+ t) : Reads t (escape start s) := by
  have hwithin : s.Within t := (List.suffix_cons '\\' s.rest).trans hs
  unfold escape
  split
  · exact hwithin.next
  · next count _ hcount =>
    obtain ⟨letter, hpeek, hletter⟩ := Option.bind_eq_some_iff.mp hcount
    split
    · exact trivial
    · next n hnumber =>
      obtain ⟨digits, after, hrest, hlength, hn⟩ := exists_of_hexNumber hnumber
      have hexceeds (m : Misfit) (hm : codePoint n = .error (.misfit m)) : Exceeds t m := by
        obtain ⟨before, ht⟩ := hs
        rw [Source.rest_of_peek hpeek, Source.rest_next, List.drop_one, hrest] at ht
        subst hlength
        have ht' : t = before ++ '\\' :: letter :: digits ++ after := by
          rw [← ht, List.append_assoc]
          rfl
        exact .escape ht' hletter hn hm
      exact ((Yields.self (codePoint n)).mono hexceeds fun _ h => h).map fun _ _ =>
        hwithin.advance (count + 1)
  · split
    · exact (reads_breaksWithin start _ hwithin.lineBreak).map fun _ hs => hs
    · exact trivial

/-- An escape is only read behind its backslash. -/
theorem reads_insideWithin (start : Mark) (q : Char) (fuel : Nat) (hs : s.Within t) :
    Reads t (insideWithin start q fuel s) := by
  induction fuel generalizing s with
  | zero => exact hs
  | succ fuel ih =>
    unfold insideWithin
    split
    · exact trivial
    · next c hc =>
      split
      · exact (reads_gap start hs).bind fun _ _ hs => (ih hs).bind fun _ _ hs => .pure hs
      split
      · split
        · exact (ih (hs.advance 2)).bind fun _ _ hs => .pure hs
        · exact hs.next
      split
      · next hq =>
        have hbackslash : '\\' :: s.next.rest <:+ t := by
          rw [← hq.2, ← Source.rest_of_peek hc]
          exact hs
        exact (reads_escape start hbackslash).bind fun _ _ hs =>
          (ih hs).bind fun _ _ hs => .pure hs
      · exact (ih hs.next).bind fun _ _ hs => .pure hs

theorem reads_read (hs : s.Within t) : Reads t (read s) :=
  (reads_insideWithin _ _ _ hs.next).bind fun _ _ hs => .pure hs

end Quoted

/-! ## Labels -/

namespace Label

theorem reads_name (kind : String) (hs : s.Within t) : Reads t (name kind s) := by
  unfold name
  dsimp only
  split
  · exact trivial
  · exact hs.next.takeWhile isNameChar

theorem reads_bytesWithin (l : Labelling) (fuel : Nat) (hs : s.Within t) :
    Reads t (bytesWithin l fuel s) := by
  induction fuel generalizing s with
  | zero => exact hs
  | succ fuel ih =>
    unfold bytesWithin
    split
    · split
      · exact trivial
      · exact (ih (hs.advance 3)).bind fun _ _ hs => .pure hs
    · exact hs

theorem reads_suffixWithin (l : Labelling) (fuel : Nat) (hs : s.Within t) :
    Reads t (suffixWithin l fuel s) := by
  induction fuel generalizing s with
  | zero => exact hs
  | succ fuel ih =>
    unfold suffixWithin
    split
    · exact hs
    split
    · refine (reads_bytesWithin l _ hs).bind fun bytes s hs => ?_
      dsimp only
      split
      · exact trivial
      · exact (ih hs).bind fun _ _ hs => .pure hs
    split
    · exact (ih hs.next).bind fun _ _ hs => .pure hs
    · exact hs

theorem reads_suffix (l : Labelling) (hs : s.Within t) : Reads t (suffix l s) := by
  refine (reads_suffixWithin l _ hs).bind fun u r hr => ?_
  dsimp only
  split
  · exact trivial
  · exact .pure hr

theorem reads_handle (l : Labelling) (hs : s.Within t) : Reads t (handle l s) := by
  unfold handle
  split
  · exact trivial
  split
  · exact hs.next
  dsimp only
  split
  · exact (hs.next.takeWhile isNameChar).next
  · exact trivial

/-- However a tag is written, the end of a word follows. -/
theorem reads_tag (hs : s.Within t) : Reads t (tag s) := by
  have hend (y : Option Text × Text) {r : Source} (hr : r.Within t) :
      Reads t (if r.atWordEnd then return (y, r)
        else throw (Labelling.misses ⟨"tag", s.mark⟩ "' '" r)) := by
    split
    · exact .pure hr
    · exact trivial
  unfold tag
  dsimp only
  split
  · refine (reads_suffix _ (hs.advance 2)).bind fun u r hr => ?_
    dsimp only
    split
    · exact hend (none, u) hr.next
    · exact trivial
  split
  · exact hend (none, ['!']) hs.next
  split
  · refine (reads_handle _ hs).bind fun h r hr => ?_
    exact (reads_suffix _ hr).bind fun u r hr => hend (some h, u) hr
  · exact (reads_suffix _ hs.next).bind fun u r hr => hend (some ['!'], u) hr

end Label

/-! ## Directives -/

namespace Directive

/-- What is left to be read comes behind the announcement of a version. -/
def Versioned (t : Text) (s : Source) : Prop :=
  ∃ before between, t = before ++ "%YAML".toList ++ between ++ s.rest

theorem Versioned.within (h : Versioned t s) : s.Within t := by
  obtain ⟨before, between, rfl⟩ := h
  exact List.suffix_append _ _

theorem Versioned.goOn {r : Source} (h : Versioned t s) (hr : r.Within s.rest) :
    Versioned t r := by
  obtain ⟨before, between, rfl⟩ := h
  obtain ⟨u, hu⟩ := hr
  exact ⟨before, between ++ u, by rw [← hu]; simp only [List.append_assoc]⟩

/-- What is wrong with a number, apart from broken rules, is its length. -/
theorem yields_number (l : Labelling) (hs : Versioned t s) :
    Yields (Exceeds t) (fun r => Versioned t r.2) (number l s) := by
  unfold number
  dsimp only
  split
  · exact trivial
  split
  · next hmost =>
    obtain ⟨before, between, ht⟩ := hs
    rw [← List.takeWhile_append_dropWhile (p := Char.isDigit) (l := s.rest),
      ← List.append_assoc] at ht
    exact .version ht (fun c hc => List.mem_takeWhile_imp hc) hmost
  · exact hs.goOn ((Within.refl s).takeWhile _)

theorem reads_readVersion (l : Labelling) (hs : Versioned t s) : Reads t (readVersion l s) := by
  refine (yields_number l (hs.goOn (Within.refl s).skipSpaces)).bind fun major hmajor => ?_
  obtain ⟨n, r⟩ := major
  dsimp only
  split
  · exact trivial
  refine (yields_number l (hmajor.goOn (Within.refl r).next)).bind fun minor hminor => ?_
  obtain ⟨_, r⟩ := minor
  dsimp only
  split
  · exact .pure hminor.within
  · exact trivial

theorem reads_readHandle (l : Labelling) (hs : s.Within t) : Reads t (readHandle l s) := by
  refine (Label.reads_handle l hs.skipSpaces).bind fun h s hs => ?_
  dsimp only
  split
  · exact trivial
  refine (Label.reads_suffix l hs.skipSpaces).bind fun u s hs => ?_
  dsimp only
  split
  · exact .pure hs
  · exact trivial

theorem reads_read (hs : s.Within t) (hpercent : s.peek = some '%') : Reads t (read s) := by
  have hname := hs.next.takeWhile Label.isNameChar
  have hend (d : Directive) {r : Source} (hr : r.Within t) :
      Reads t (if r.skipSpaces.skipComment.atLineEnd then
          return (d, r.skipSpaces.skipComment.lineBreak.2)
        else throw (Labelling.misses ⟨"directive", s.mark⟩ "a comment or a line break"
          r.skipSpaces.skipComment)) := by
    split
    · exact .pure hr.skipSpaces.skipComment.lineBreak
    · exact trivial
  unfold read
  dsimp only
  split
  · exact trivial
  split
  · next hversion =>
    have hversioned : Versioned t (s.next.takeWhile Label.isNameChar).2 := by
      obtain ⟨before, ht⟩ := hs
      refine ⟨before, [], ?_⟩
      rw [← ht, Source.rest_of_peek hpercent,
        ← Source.takeWhile_append_rest Label.isNameChar s.next, hversion]
      simp only [List.append_assoc, List.append_nil]
      rfl
    exact (reads_readVersion _ hversioned).bind fun d r hr => hend d hr
  split
  · exact (reads_readHandle _ hname).bind fun d r hr => hend d hr
  · exact hend .other (hname.skipWhile _)

end Directive

/-! ## Scalars without quotes -/

namespace Block

theorem within_indicators (hs : s.Within t) : (indicators s).2.Within t := by
  unfold indicators
  split
  · split
    · exact hs.advance 2
    · exact hs.next
  · split
    · exact hs.advance 2
    · exact hs.next
  · exact hs

theorem reads_header (start : Mark) (hs : s.Within t) : Reads t (header start s) := by
  have hr := within_indicators hs
  unfold header
  dsimp only
  split
  · exact trivial
  split
  · exact trivial
  split
  · exact hr.skipSpaces.skipComment.lineBreak
  · exact trivial

theorem within_probeWithin (fuel deepest : Nat) (hs : s.Within t) :
    (probeWithin fuel deepest s).2.2.Within t := by
  induction fuel generalizing deepest s with
  | zero => exact hs
  | succ fuel ih =>
    unfold probeWithin
    dsimp only
    split
    · exact ih _ hs.skipSpaces.lineBreak
    · exact hs.skipSpaces

theorem within_breaksWithin (indent fuel : Nat) (hs : s.Within t) :
    (breaksWithin indent fuel s).2.Within t := by
  induction fuel generalizing s with
  | zero => exact hs
  | succ fuel ih =>
    unfold breaksWithin
    dsimp only
    split
    · exact ih (hs.skipSpacesTo indent).lineBreak
    · exact hs.skipSpacesTo indent

theorem within_breaks (indent : Nat) (hs : s.Within t) : (breaks indent s).2.Within t :=
  within_breaksWithin indent _ hs

theorem within_linesWithin (folded : Bool) (indent fuel : Nat) (before : Text)
    (hs : s.Within t) : (linesWithin folded indent fuel before s).2.2.2.Within t := by
  induction fuel generalizing before s with
  | zero => exact hs
  | succ fuel ih =>
    have hline := (hs.takeWhile fun c => !isBreak c).lineBreak
    have hbreaks := within_breaks indent hline
    unfold linesWithin
    dsimp only
    split
    · exact ih _ hbreaks
    · exact hbreaks

theorem within_lines (folded : Bool) (column : Nat) (before : Text) (hs : s.Within t) :
    (if goesOn column s then linesWithin folded column (s.rest.length + 1) before s
      else ([], [], before, s)).2.2.2.Within t := by
  split
  · exact within_linesWithin folded column _ before hs
  · exact hs

theorem reads_read (indent : Int) (hs : s.Within t) : Reads t (read indent s) := by
  refine (reads_header s.mark hs.next).bind fun h r hr => .pure ?_
  cases h.increment with
  | none => exact within_lines _ _ _ (within_probeWithin _ 0 hr)
  | some n => exact within_lines _ _ _ (within_breaks _ hr)

end Block

namespace Plain

theorem within_breaksWithin (fuel : Nat) (hs : s.Within t) : (breaksWithin fuel s).2.Within t := by
  induction fuel generalizing s with
  | zero => exact hs
  | succ fuel ih =>
    unfold breaksWithin
    dsimp only
    split
    · split
      · exact hs.skipSpaces.lineBreak
      · exact ih hs.skipSpaces.lineBreak
    · exact hs.skipSpaces

theorem within_of_breaksWithin {fuel : Nat} {bs : Option Text} {r : Source} (hs : s.Within t)
    (h : breaksWithin fuel s = (bs, r)) : r.Within t := by
  have := within_breaksWithin fuel hs
  rwa [h] at this

theorem within_gap (hs : s.Within t) : (gap s).source.Within t := by
  have hbreak := (hs.takeWhile (· = ' ')).lineBreak
  unfold gap
  dsimp only
  split
  · split
    · exact hbreak
    split
    · next h => exact within_of_breaksWithin hbreak h
    · next h => exact within_of_breaksWithin hbreak h
  · exact hs.takeWhile (· = ' ')

theorem within_wordsWithin (flow : Bool) (indent fuel : Nat) {g : Gap} (hg : g.source.Within t) :
    (wordsWithin flow indent fuel g).source.Within t := by
  induction fuel generalizing g with
  | zero => exact hg
  | succ fuel ih =>
    have hgap := within_gap (hg.advance (word flow g.source.rest).length)
    unfold wordsWithin
    dsimp only
    split
    · exact hg
    split
    · exact hgap
    · exact ih hgap

theorem within_read (flow : Bool) (indent : Nat) (hs : s.Within t) :
    (read flow indent s).source.Within t :=
  within_wordsWithin flow indent _ hs

end Plain

end Typeset.Yaml
