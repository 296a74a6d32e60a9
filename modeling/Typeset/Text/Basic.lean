/-!
# Text

A text is a list of code points. Positions, lengths and cuts count code points, and every
function on texts is defined by recursion on the list.

## Main definitions

* `Text.after?`: what follows a given beginning
* `Text.breakOn?`: the text around the first occurrence of a separator
* `Text.splitOn`: the pieces between the occurrences of one character
* `Text.joinWith`: pieces put together with a separator between them

## Main results

* `Text.after?_eq_some_iff`: `after?` undoes `++`
-/

namespace Typeset

/-- A sequence of code points. -/
abbrev Text := List Char

namespace Text

/-- The text as a string. -/
def str (t : Text) : String := String.ofList t

/-- The text that a string holds. -/
def ofString (s : String) : Text := s.toList

/-- The rest of `t` after `p`, if `t` begins with `p`. -/
def after? : Text → Text → Option Text
  | [], t => some t
  | _ :: _, [] => none
  | a :: p, c :: t => if a = c then after? p t else none

theorem after?_eq_some_iff {p t r : Text} : after? p t = some r ↔ t = p ++ r := by
  induction p generalizing t with
  | nil => simp [after?, eq_comm]
  | cons a p ih =>
    cases t with
    | nil => simp [after?]
    | cons c t =>
      by_cases h : a = c
      · simp [after?, h, ih]
      · simp [after?, h, Ne.symm h]

@[simp] theorem after?_append (p r : Text) : after? p (p ++ r) = some r :=
  after?_eq_some_iff.2 rfl

/-- Whether `t` begins with `p`. -/
def beginsWith (p t : Text) : Bool := (after? p t).isSome

/-- Whether `t` ends with `p`. -/
def endsWith (p t : Text) : Bool := beginsWith p.reverse t.reverse

/-- The text before and after the first occurrence of `sep`. -/
def breakOn? (sep : Text) : Text → Option (Text × Text)
  | [] => if sep.isEmpty then some ([], []) else none
  | c :: t =>
    match after? sep (c :: t) with
    | some r => some ([], r)
    | none => (breakOn? sep t).map fun (l, r) => (c :: l, r)

theorem eq_of_breakOn? {sep t l r : Text} (h : breakOn? sep t = some (l, r)) :
    t = l ++ sep ++ r := by
  induction t generalizing l with
  | nil =>
    cases sep with
    | nil => simp [breakOn?] at h; simp [h]
    | cons _ _ => simp [breakOn?] at h
  | cons c t ih =>
    unfold breakOn? at h
    split at h
    · next r' hr =>
      obtain ⟨rfl, rfl⟩ := by simpa using h
      simpa using after?_eq_some_iff.1 hr
    · simp only [Option.map_eq_some_iff, Prod.exists, Prod.mk.injEq] at h
      obtain ⟨l', r', h', rfl, rfl⟩ := h
      simp [ih h']

/-- Whether `part` occurs in `t`. -/
def occursIn (part t : Text) : Bool := (breakOn? part t).isSome

/-- The text with every occurrence of `old` replaced by `new`, from the left; `fuel` bounds the
number of replacements. -/
def replaceWithin (old new : Text) : (fuel : Nat) → Text → Text
  | 0, t => t
  | fuel + 1, t =>
    match breakOn? old t with
    | some (l, r) => l ++ new ++ replaceWithin old new fuel r
    | none => t

/-- The text with every occurrence of the non-empty text `old` replaced by `new`, from the left. -/
def replace (old new t : Text) : Text := replaceWithin old new t.length t

/-- The text without its longest ending whose characters satisfy `p`. -/
def dropEnd (p : Char → Bool) (t : Text) : Text := (t.reverse.dropWhile p).reverse

/-- The longest ending of the text whose characters satisfy `p`. -/
def takeEnd (p : Char → Bool) (t : Text) : Text := (t.reverse.takeWhile p).reverse

theorem dropEnd_append_takeEnd (p : Char → Bool) (t : Text) : dropEnd p t ++ takeEnd p t = t := by
  rw [dropEnd, takeEnd, ← List.reverse_append, List.takeWhile_append_dropWhile,
    List.reverse_reverse]

/-- The pieces between the occurrences of `sep`; there is always at least one. -/
def splitOn (sep : Char) : Text → List Text
  | [] => [[]]
  | c :: t =>
    if c = sep then [] :: splitOn sep t
    else
      match splitOn sep t with
      | [] => [[c]]
      | w :: ws => (c :: w) :: ws

theorem splitOn_ne_nil (sep : Char) (t : Text) : splitOn sep t ≠ [] := by
  cases t with
  | nil => simp [splitOn]
  | cons c t =>
    unfold splitOn
    split
    · simp
    · split <;> simp

/-- The pieces in order, with `sep` between neighbours. -/
def joinWith (sep : Text) : List Text → Text
  | [] => []
  | [w] => w
  | w :: ws => w ++ sep ++ joinWith sep ws

theorem joinWith_cons {sep w : Text} {ws : List Text} (h : ws ≠ []) :
    joinWith sep (w :: ws) = w ++ sep ++ joinWith sep ws := by
  cases ws with
  | nil => exact absurd rfl h
  | cons _ _ => rfl

/-- The last occurrence of `sep` and the text around it. -/
def breakOnLast? (sep : Char) (t : Text) : Option (Text × Text) :=
  if sep ∈ t then
    some (((t.reverse.dropWhile (· ≠ sep)).drop 1).reverse, (t.reverse.takeWhile (· ≠ sep)).reverse)
  else none

/-- ASCII letters in lower case; other characters stay. -/
def lower (t : Text) : Text := t.map Char.toLower

end Text

end Typeset
