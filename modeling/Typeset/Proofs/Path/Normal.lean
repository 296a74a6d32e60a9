import Typeset.Proofs.Path.Written
import Typeset.Proofs.Text.Phrase

/-!
# Normal paths

A path that is seen from an absolute directory has an anchor, and normalizing leaves no `..` in it,
since at an anchor each of them can be carried out. Such a path stays the same when it is normalized
again, and so does its text, whose last part is the name of the file.

## Main definitions

* `Path.normalText`: a text normalized as the path that it denotes
* `Path.IsNormal`: absolute paths without anything left to normalize

## Main results

* `Path.isNormal_resolve`: what is seen from an absolute directory is normal
* `Path.IsNormal.normalText_text`: the text of a normal path stays the same
* `Path.IsClean.takeEnd_text`: the name of a file is what its text ends with behind the last slash
-/

namespace Typeset.Path

/-- The text of the normalized path that a text denotes. -/
def normalText (t : Text) : Text := (ofText t).normalize.text

/-- An absolute path that reading and normalizing leave as it is. -/
structure IsNormal (p : Path) : Prop where
  absolute : p.isAbsolute = true
  clean : p.IsClean
  dotDot : dotDot ∉ p.parts

/-! ## Normalizing -/

theorem isAbsolute_ofText_slash (t : Text) : (ofText ('/' :: t)).isAbsolute = true := by
  have hpos : (('/' :: t).takeWhile (· = '/')).length = (t.takeWhile (· = '/')).length + 1 := by
    simp
  rw [isAbsolute, ofText, hpos]
  rcases (t.takeWhile (· = '/')).length with _ | _ | n <;> rfl

/-- At an anchor each `..` is carried out. -/
theorem dotDot_not_mem_collapse {seen : List Text} (h : dotDot ∉ seen) (names : List Text) :
    dotDot ∉ collapse true seen names := by
  induction names generalizing seen with
  | nil => rwa [collapse, List.mem_reverse]
  | cons n names ih =>
    unfold collapse
    by_cases hn : n = dotDot
    · rw [if_pos hn]
      cases seen with
      | nil => exact ih List.not_mem_nil
      | cons s rest =>
        have hs : s ≠ dotDot := Ne.symm (List.ne_of_not_mem_cons h)
        simp only [if_neg hs]
        exact ih (List.not_mem_of_not_mem_cons h)
    · rw [if_neg hn]
      exact ih (List.not_mem_cons_of_ne_of_not_mem (Ne.symm hn) h)

theorem isAbsolute_join {directory : Path} (h : directory.isAbsolute = true) (candidate : Path) :
    (directory.join candidate).isAbsolute = true := by
  unfold join
  split
  · exact h
  · next hc => simpa [isAbsolute] using hc

/-- What is seen from an absolute directory is normal. -/
theorem isNormal_resolve {directory candidate : Path} (habs : directory.isAbsolute = true)
    (hd : directory.IsClean) (hc : candidate.IsClean) :
    (directory.resolve candidate).IsNormal where
  absolute := isAbsolute_join habs candidate
  clean := hd.resolve hc
  dotDot := by
    rw [resolve, normalize, isAbsolute_join habs]
    exact dotDot_not_mem_collapse List.not_mem_nil _

namespace IsNormal

variable {p : Path}

theorem normalize_eq (h : p.IsNormal) : p.normalize = p :=
  normalize_of_forall_ne fun _ hn hdot => h.dotDot (hdot ▸ hn)

/-- Normalizing the text of a normal path changes nothing. -/
theorem normalText_text (h : p.IsNormal) : normalText p.text = p.text := by
  rw [normalText, ofText_text h.clean, h.normalize_eq]

theorem head?_text (h : p.IsNormal) : p.text.head? = some '/' := by
  obtain ⟨anchor, parts⟩ := p
  cases anchor with
  | relative => cases h.absolute
  | root | doubleRoot => rfl

/-- A file is normal as seen from the directory of a normal one. -/
theorem resolve_parent (h : p.IsNormal) (name : Text) :
    (p.parent.resolve (.ofText name)).IsNormal :=
  isNormal_resolve h.absolute (fun n hn => h.clean n (List.dropLast_subset _ hn))
    (isClean_ofText name)

end IsNormal

/-! ## Names -/

theorem takeEnd_append_slash (t : Text) {n : Text} (h : '/' ∉ n) :
    Text.takeEnd (· ≠ '/') (t ++ '/' :: n) = n := by
  have hall : ∀ c ∈ n.reverse, decide (c ≠ '/') = true := fun c hc =>
    decide_eq_true fun heq => h (heq ▸ List.mem_reverse.mp hc)
  rw [Text.takeEnd, List.reverse_append, List.reverse_cons, List.append_assoc,
    List.takeWhile_append_of_pos hall]
  simp

/-- An absolute path is written with its last component behind a slash. -/
theorem exists_text_eq {p : Path} (habs : p.isAbsolute = true) {front : List Text} {n : Text}
    (hparts : p.parts = front ++ [n]) : ∃ t, p.text = t ++ '/' :: n := by
  have hanchor : p.anchor ≠ .relative := by simpa [isAbsolute] using habs
  rw [text, if_neg fun h => hanchor h.1, hparts]
  by_cases hfront : front = []
  · rw [hfront, List.nil_append, Text.joinWith]
    cases ha : p.anchor with
    | relative => exact absurd ha hanchor
    | root => exact ⟨[], rfl⟩
    | doubleRoot => exact ⟨['/'], rfl⟩
  · refine ⟨p.anchor.text ++ Text.joinWith ['/'] front, ?_⟩
    rw [Text.joinWith_append hfront (List.cons_ne_nil n [])]
    simp [Text.joinWith]

/-- The name of a file is what its text ends with behind the last slash. -/
theorem IsClean.takeEnd_text {p : Path} (hp : p.IsClean) (habs : p.isAbsolute = true) :
    Text.takeEnd (· ≠ '/') p.text = p.name := by
  rcases List.eq_nil_or_concat p.parts with hnil | ⟨front, n, hparts⟩
  · obtain ⟨anchor, parts⟩ := p
    obtain rfl : parts = [] := hnil
    cases anchor with
    | relative => cases habs
    | root | doubleRoot => rfl
  · rw [List.concat_eq_append] at hparts
    obtain ⟨t, ht⟩ := exists_text_eq habs hparts
    have hslash : '/' ∉ n := (hp n (by simp [hparts])).2.2
    rw [ht, takeEnd_append_slash t hslash, name, hparts, List.getLast?_concat, Option.getD_some]

end Typeset.Path
