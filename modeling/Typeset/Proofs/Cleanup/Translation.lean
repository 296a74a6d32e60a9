import Typeset.Proofs.Cleanup.Placeholder
import Typeset.Proofs.Text.Mark

/-!
# Patterns as regular expressions

A pattern is carried out as a regular expression, which is made by changing texts: everything in the
pattern is written so that it stands for itself, a backslash included, and then `\*` is replaced by
`.*` and `\?` by `.`. What is replaced need not be what has become of a wildcard. It could begin
with the second backslash of an escaped one. It never does: a wildcard is always escaped, so what
follows a backslash of the pattern begins with another backslash or with a character that is no
wildcard.

So the expression has one part for each character of the pattern. It describes a name in the way in
which a matcher would that reads the pattern character by character.

## Main definitions

* `Wildcard.Describes`: what a pattern describes, by recursion on its characters

## Main results

* `Text.replace_flatMap`: what is replaced in a text in which each character has been written anew
* `Wildcard.expression_eq`: the text of the expression, character by character
* `Wildcard.compile?_eq`: the parts of the expression, character by character
* `Wildcard.describes_iff_matchesName`: the expression and the pieces of the pattern agree
* `Wildcard.compiled_describes_iff`: the expression describes what the pattern describes
-/

namespace Typeset

/-! ## Replacing what characters have become -/

namespace Text

variable {b q : Char} {u v : Text}

/-- A mark of two characters does not begin in a text that does not hold it, unless its second
character is the first one behind the text. -/
theorem replace_append_of_not_isInfix (hu : ¬ [b, q] <:+: u) (hv : v.head? ≠ some q) (new : Text) :
    replace [b, q] new (u ++ v) = u ++ replace [b, q] new v := by
  induction u with
  | nil => rfl
  | cons d u ih =>
    have hmark : ¬ [b, q] <+: d :: (u ++ v) := by
      intro h
      obtain ⟨hd, hrest⟩ := List.cons_prefix_cons.mp h
      cases u with
      | nil =>
        obtain ⟨w, hw⟩ := hrest
        rw [List.nil_append] at hw
        rw [← hw] at hv
        exact hv rfl
      | cons e u =>
        obtain ⟨he, -⟩ := List.cons_prefix_cons.mp hrest
        rw [hd, he] at hu
        exact hu ⟨[], u, rfl⟩
    rw [List.cons_append, replace_cons_of_not_isPrefix (List.cons_ne_nil b [q]) new hmark,
      ih fun h => hu (h.trans (List.suffix_cons d u).isInfix), List.cons_append]

/-- Each character of a text has been written anew. If only `q` was written as the mark, and nothing
that was written begins with `q`, then just what has become of `q` is replaced. -/
theorem replace_flatMap {write : Char → Text} (hq : write q = [b, q])
    (hmark : ∀ c, c ≠ q → ¬ [b, q] <:+: write c)
    (hhead : ∀ c, ∃ d w, write c = d :: w ∧ d ≠ q) (new t : Text) :
    replace [b, q] new (t.flatMap write) = t.flatMap fun c => if c = q then new else write c := by
  induction t with
  | nil => rfl
  | cons c t ih =>
    rw [List.flatMap_cons, List.flatMap_cons]
    by_cases hc : c = q
    · subst hc
      rw [if_pos rfl, hq, replace_append_self (List.cons_ne_nil b [c]), ih]
    · have hnext : (t.flatMap write).head? ≠ some q := by
        cases t with
        | nil => simp
        | cons c' t =>
          obtain ⟨d, w, hd, hne⟩ := hhead c'
          simp [List.flatMap_cons, hd, hne]
      rw [if_neg hc, replace_append_of_not_isInfix (hmark c hc) hnext, ih]

end Text

namespace Wildcard

open Expression (Item Token escape escapeChar isSpecial items? tokens?)

variable {pattern base name t : Text} {ps : List Piece}

/-! ## The text of the expression -/

/-- What a piece of a pattern is written as. -/
def Piece.text : Piece → Text
  | .run => ['.', '*']
  | .single => ['.']
  | .literal c => escapeChar c

/-- An escaped character is itself, behind a backslash if it is special. -/
theorem escapeChar_cases (c : Char) :
    escapeChar c = ['\\', c] ∧ isSpecial c = true ∨ escapeChar c = [c] ∧ isSpecial c = false := by
  cases h : isSpecial c <;> simp [escapeChar, h]

/-- An escaped character begins with a character that is no wildcard. -/
theorem exists_escapeChar {q : Char} (hq : q = '*' ∨ q = '?') (c : Char) :
    ∃ d w, escapeChar c = d :: w ∧ d ≠ q := by
  rcases escapeChar_cases c with ⟨heq, -⟩ | ⟨heq, hc⟩
  · exact ⟨_, _, heq, by rcases hq with rfl | rfl <;> decide⟩
  · refine ⟨_, _, heq, ?_⟩
    rintro rfl
    rcases hq with rfl | rfl <;> exact absurd hc (by decide)

/-- A backslash stands in front of a character only if that character was escaped. -/
theorem not_isInfix_escapeChar {c q : Char} (hc : c ≠ q) : ¬ ['\\', q] <:+: escapeChar c := by
  intro h
  have hlength := h.length_le
  rcases escapeChar_cases c with ⟨heq, -⟩ | ⟨heq, -⟩
  · rw [heq] at h
    have hsame := h.eq_of_length rfl
    simp only [List.cons.injEq, true_and, and_true] at hsame
    exact hc hsame.symm
  · rw [heq] at hlength
    simp at hlength

/-- The text of the expression has the pieces of the pattern between its anchors. When single
characters are replaced, the runs are written already and hold no backslash. -/
theorem expression_eq (pattern base : Text) :
    expression pattern base = '^' :: ((pieces pattern base).flatMap Piece.text ++ ['$']) := by
  have hruns (t : Text) : Text.replace ['\\', '*'] ['.', '*'] (escape t) =
      t.flatMap fun c => if c = '*' then ['.', '*'] else escapeChar c :=
    Text.replace_flatMap rfl (fun _ => not_isInfix_escapeChar) (exists_escapeChar (.inl rfl)) _ t
  have hsingles (t : Text) : Text.replace ['\\', '?'] ['.']
      (t.flatMap fun c => if c = '*' then ['.', '*'] else escapeChar c) =
      t.flatMap fun c => (Piece.ofChar c).text := by
    have hpieces : (fun c => (Piece.ofChar c).text) = fun c =>
        if c = '?' then ['.'] else if c = '*' then ['.', '*'] else escapeChar c := by
      funext c
      unfold Piece.ofChar
      by_cases hstar : c = '*'
      · subst hstar
        rfl
      · by_cases hmark : c = '?' <;> simp [hstar, hmark, Piece.text]
    rw [hpieces]
    refine Text.replace_flatMap rfl ?_ ?_ _ t
    · intro c hc
      by_cases hstar : c = '*'
      · rw [if_pos hstar]
        decide
      · rw [if_neg hstar]
        exact not_isInfix_escapeChar hc
    · intro c
      by_cases hstar : c = '*'
      · exact ⟨'.', ['*'], if_pos hstar, by decide⟩
      · rw [if_neg hstar]
        exact exists_escapeChar (.inr rfl) c
  rw [expression, hruns, hsingles, pieces, List.flatMap_map]

/-! ## The parts of the expression -/

/-- The signs that a piece of a pattern is written with. -/
def Piece.signs : Piece → List Token
  | .run => [.place .any, .star]
  | .single => [.place .any]
  | .literal c => [.place (.exactly c)]

/-- The part of an expression for a piece of a pattern. -/
def Piece.item : Piece → Item
  | .run => .many .any
  | .single => .one .any
  | .literal c => .one (.exactly c)

/-- A character other than a backslash is read by itself. -/
theorem tokens?_cons {c : Char} {k : Token} (hc : c ≠ '\\') (hk : Token.ofChar? c = some k)
    (t : Text) : tokens? (c :: t) = (tokens? t).map (k :: ·) := by
  rw [tokens?, hk]
  exact fun _ _ hback => absurd hback hc

/-- An escaped character is read as itself: it is no letter or digit if there is a backslash in
front of it, and has no meaning of its own if there is none. -/
theorem tokens?_escapeChar (c : Char) (t : Text) :
    tokens? (escapeChar c ++ t) = (tokens? t).map (.place (.exactly c) :: ·) := by
  rcases escapeChar_cases c with ⟨heq, hc⟩ | ⟨heq, hc⟩
  · have halnum : c.isAlphanum = false := by
      have hall : "()[]\x7b\x7d?*+-|^$\\.&~# \t\n\r\x0b\x0c".toList.all (!Char.isAlphanum ·) =
          true := by decide
      have hmem : c ∈ "()[]\x7b\x7d?*+-|^$\\.&~# \t\n\r\x0b\x0c".toList := by
        simpa [isSpecial] using hc
      simpa using List.all_eq_true.mp hall c hmem
    rw [heq, List.cons_append, List.singleton_append, tokens?, if_neg (by simp [halnum])]
  · have hne {d : Char} (hd : isSpecial d = true) : c ≠ d := by
      rintro rfl
      rw [hc] at hd
      cases hd
    have hmem : c ∉ "\\+?|()[]\x7b\x7d".toList := by
      intro hmem
      have hall : "\\+?|()[]\x7b\x7d".toList.all isSpecial = true := by decide
      exact hne (List.all_eq_true.mp hall c hmem) rfl
    have hsign : Token.ofChar? c = some (.place (.exactly c)) := by
      rw [Token.ofChar?, if_neg (hne (by decide)), if_neg (hne (by decide)),
        if_neg (hne (by decide)), if_neg (hne (by decide)), if_neg hmem]
    rw [heq, List.singleton_append, tokens?_cons (hne (by decide)) hsign]

theorem tokens?_text (p : Piece) (t : Text) :
    tokens? (p.text ++ t) = (tokens? t).map (p.signs ++ ·) := by
  cases p with
  | run =>
    rw [Piece.text, List.cons_append, List.singleton_append, tokens?_cons (by decide) rfl,
      tokens?_cons (by decide) rfl, Option.map_map]
    rfl
  | single => exact tokens?_cons (by decide) rfl t
  | literal c => exact tokens?_escapeChar c t

/-- The expression is read sign by sign. -/
theorem tokens?_pieces (ps : List Piece) :
    tokens? (ps.flatMap Piece.text ++ ['$']) = some (ps.flatMap Piece.signs ++ [.stop]) := by
  induction ps with
  | nil => exact tokens?_cons (by decide) rfl []
  | cons p ps ih =>
    rw [List.flatMap_cons, List.flatMap_cons, List.append_assoc, tokens?_text, ih, Option.map_some,
      List.append_assoc]

/-- No star stands in front of the pieces, so a place in front of them is single. -/
theorem items?_place (k : Expression.Class) (ps : List Piece) :
    items? (.place k :: (ps.flatMap Piece.signs ++ [.stop])) =
      (items? (ps.flatMap Piece.signs ++ [.stop])).map (.one k :: ·) := by
  cases ps with
  | nil => rfl
  | cons p ps => cases p <;> rfl

theorem items?_pieces (ps : List Piece) :
    items? (ps.flatMap Piece.signs ++ [.stop]) = some (ps.map Piece.item ++ [.stop]) := by
  induction ps with
  | nil => rfl
  | cons p ps ih =>
    rw [List.flatMap_cons, List.append_assoc]
    cases p with
    | run =>
      rw [Piece.signs, List.cons_append, List.singleton_append, items?, ih]
      rfl
    | single =>
      rw [Piece.signs, List.singleton_append, items?_place, ih]
      rfl
    | literal c =>
      rw [Piece.signs, List.singleton_append, items?_place, ih]
      rfl

/-- A pattern is always written as an expression that can be read, and its parts are the pieces of
the pattern between the anchors. -/
theorem compile?_eq (pattern base : Text) :
    compile? pattern base =
      some ⟨.start :: ((pieces pattern base).map Piece.item ++ [.stop])⟩ := by
  rw [compile?, Expression.ofText?, expression_eq, tokens?_cons (by decide) rfl, tokens?_pieces,
    Option.map_some, Option.bind_some, items?, items?_pieces, Option.map_some, Option.map_some]

/-! ## What the expression describes -/

/-- A repeated place takes some of the characters of its class. -/
theorem accepts_many_iff {k : Expression.Class} {is : List Item} {atStart : Bool} :
    Expression.accepts atStart (.many k :: is) t = true ↔
      ∃ taken rest, t = taken ++ rest ∧ (∀ c ∈ taken, k.holds c = true) ∧
        Expression.accepts (atStart && taken.isEmpty) is rest = true := by
  induction t generalizing atStart with
  | nil => simp [Expression.accepts]
  | cons c t ih =>
    rw [Expression.accepts, Bool.or_eq_true, Bool.and_eq_true, ih]
    constructor
    · rintro (h | ⟨hc, taken, rest, rfl, htaken, h⟩)
      · exact ⟨[], c :: t, rfl, by simp, by simpa using h⟩
      · refine ⟨c :: taken, rest, rfl, ?_, by simpa using h⟩
        exact List.forall_mem_cons.mpr ⟨hc, htaken⟩
    · rintro ⟨taken, rest, heq, htaken, h⟩
      cases taken with
      | nil =>
        rw [List.nil_append] at heq
        subst heq
        exact .inl (by simpa using h)
      | cons d taken =>
        obtain ⟨rfl, rfl⟩ := List.cons.inj heq
        obtain ⟨hd, htaken⟩ := List.forall_mem_cons.mp htaken
        exact .inr ⟨hd, taken, rest, rfl, htaken, by simpa using h⟩

/-- A run takes some characters other than line feeds. -/
theorem accepts_run_iff :
    accepts (.run :: ps) name = true ↔
      ∃ taken rest, name = taken ++ rest ∧ '\n' ∉ taken ∧ accepts ps rest = true := by
  induction name with
  | nil => simp [accepts]
  | cons c name ih =>
    rw [accepts, Bool.or_eq_true, Bool.and_eq_true, bne_iff_ne, ih]
    constructor
    · rintro (h | ⟨hc, taken, rest, rfl, htaken, h⟩)
      · exact ⟨[], c :: name, rfl, List.not_mem_nil, h⟩
      · exact ⟨c :: taken, rest, rfl, List.not_mem_cons_of_ne_of_not_mem hc.symm htaken, h⟩
    · rintro ⟨taken, rest, heq, htaken, h⟩
      cases taken with
      | nil =>
        rw [List.nil_append] at heq
        subst heq
        exact .inl h
      | cons d taken =>
        obtain ⟨rfl, rfl⟩ := List.cons.inj heq
        exact .inr ⟨(List.ne_of_not_mem_cons htaken).symm, taken, rest, rfl,
          List.not_mem_of_not_mem_cons htaken, h⟩

/-- A single place takes one character of its class. -/
theorem accepts_one_iff {k : Expression.Class} {is : List Item} {atStart : Bool} :
    Expression.accepts atStart (.one k :: is) t = true ↔
      ∃ c rest, t = c :: rest ∧ k.holds c = true ∧ Expression.accepts false is rest = true := by
  cases t with
  | nil => simp [Expression.accepts]
  | cons c t => simp [Expression.accepts]

/-- A piece with a single place takes one character of its class. -/
theorem accepts_piece_iff {p : Piece} {k : Expression.Class} (hp : p.item = .one k) :
    accepts (p :: ps) name = true ↔
      ∃ c rest, name = c :: rest ∧ k.holds c = true ∧ accepts ps rest = true := by
  cases p with
  | run => cases hp
  | single =>
    cases hp
    cases name <;> simp [accepts, Expression.Class.holds]
  | literal a =>
    cases hp
    cases name <;> simp [accepts, Expression.Class.holds]

/-- The parts of a pattern describe what its pieces describe. The last anchor lets one line feed be
left over. -/
theorem accepts_items_iff {atStart : Bool} :
    Expression.accepts atStart (ps.map Piece.item ++ [.stop]) name = true ↔
      ∃ front back, name = front ++ back ∧ (back = [] ∨ back = ['\n']) ∧
        accepts ps front = true := by
  induction ps generalizing atStart name with
  | nil => simp [Expression.accepts, accepts]
  | cons p ps ih =>
    rw [List.map_cons, List.cons_append]
    cases hp : p.item with
    | many k =>
      obtain ⟨rfl, rfl⟩ : p = .run ∧ k = .any := by
        cases p with
        | run => exact ⟨rfl, (Item.many.inj hp).symm⟩
        | single => cases hp
        | literal => cases hp
      rw [accepts_many_iff]
      simp only [ih, accepts_run_iff]
      constructor
      · rintro ⟨taken, _, rfl, htaken, front, back, rfl, hback, h⟩
        have hfeed : '\n' ∉ taken := fun hmem => absurd (htaken _ hmem) (by decide)
        exact ⟨taken ++ front, back, by rw [List.append_assoc], hback, taken, front, rfl, hfeed, h⟩
      · rintro ⟨_, back, rfl, hback, taken, front, rfl, hfeed, h⟩
        refine ⟨taken, front ++ back, by rw [List.append_assoc], ?_, front, back, rfl, hback, h⟩
        intro c hc
        have hne : c ≠ '\n' := fun heq => hfeed (heq ▸ hc)
        exact bne_iff_ne.mpr hne
    | one k =>
      rw [accepts_one_iff]
      simp only [ih, accepts_piece_iff hp]
      constructor
      · rintro ⟨c, _, rfl, hc, front, back, rfl, hback, h⟩
        exact ⟨c :: front, back, rfl, hback, c, front, rfl, hc, h⟩
      · rintro ⟨_, back, rfl, hback, c, front, rfl, hc, h⟩
        exact ⟨c, front ++ back, rfl, hc, front, back, rfl, hback, h⟩
    | start => cases p <;> cases hp
    | stop => cases p <;> cases hp

/-- The expression for a pattern describes the names that the pieces of the pattern describe. -/
theorem describes_iff_matchesName (pattern base name : Text) :
    ((compile? pattern base).any (Expression.describes · name)) = true ↔
      matchesName pattern base name = true := by
  rw [compile?_eq, Option.any_some, Expression.describes, Expression.accepts, Bool.true_and,
    accepts_items_iff, matchesName]
  simp only [Bool.or_eq_true, Bool.and_eq_true, beq_iff_eq]
  constructor
  · rintro ⟨front, back, rfl, rfl | rfl, h⟩
    · exact .inl (by rwa [List.append_nil])
    · exact .inr ⟨List.getLast?_concat, by rwa [List.dropLast_concat]⟩
  · rintro (h | ⟨hlast, h⟩)
    · exact ⟨name, [], (List.append_nil name).symm, .inl rfl, h⟩
    · obtain ⟨front, rfl⟩ := List.getLast?_eq_some_iff.mp hlast
      rw [List.dropLast_concat] at h
      exact ⟨front, ['\n'], rfl, .inr rfl, h⟩

/-! ## What a pattern describes -/

/-- What a pattern without a placeholder describes. The empty pattern describes the empty name, a
star any run of characters, a question mark one character, and every other character itself. -/
inductive Describes : Text → Text → Prop where
  | nil : Describes [] []
  | star {pattern name : Text} (taken : Text) (h : Describes pattern name) :
      Describes ('*' :: pattern) (taken ++ name)
  | mark {pattern name : Text} (c : Char) (h : Describes pattern name) :
      Describes ('?' :: pattern) (c :: name)
  | other {pattern name : Text} {c : Char} (hstar : c ≠ '*') (hmark : c ≠ '?')
      (h : Describes pattern name) : Describes (c :: pattern) (c :: name)

/-- Names without line feeds are described by the characters of a pattern as by its pieces. -/
theorem accepts_iff_describes (hname : '\n' ∉ name) :
    accepts (pattern.map Piece.ofChar) name = true ↔ Describes pattern name := by
  induction pattern generalizing name with
  | nil =>
    rw [List.map_nil, accepts, List.isEmpty_iff]
    constructor
    · rintro rfl
      exact .nil
    · rintro ⟨⟩
      rfl
  | cons a pattern ih =>
    rw [List.map_cons]
    by_cases hstar : a = '*'
    · subst hstar
      rw [show Piece.ofChar '*' = .run from rfl, accepts_run_iff]
      constructor
      · rintro ⟨taken, rest, rfl, -, h⟩
        exact .star taken ((ih fun hmem => hname (List.mem_append_right _ hmem)).mp h)
      · intro h
        cases h with
        | star taken h =>
          rw [List.mem_append, not_or] at hname
          exact ⟨taken, _, rfl, hname.1, (ih hname.2).mpr h⟩
        | other hstar => exact absurd rfl hstar
    · by_cases hmark : a = '?'
      · subst hmark
        rw [show Piece.ofChar '?' = .single from rfl, accepts_piece_iff rfl]
        constructor
        · rintro ⟨c, rest, rfl, -, h⟩
          exact .mark c ((ih (List.not_mem_of_not_mem_cons hname)).mp h)
        · intro h
          cases h with
          | mark c h =>
            have hc : c ≠ '\n' := (List.ne_of_not_mem_cons hname).symm
            exact ⟨c, _, rfl, bne_iff_ne.mpr hc, (ih (List.not_mem_of_not_mem_cons hname)).mpr h⟩
          | other _ hmark => exact absurd rfl hmark
      · rw [Piece.ofChar, if_neg hstar, if_neg hmark, accepts_piece_iff rfl]
        constructor
        · rintro ⟨c, rest, rfl, hc, h⟩
          obtain rfl : a = c := beq_iff_eq.mp hc
          exact .other hstar hmark ((ih (List.not_mem_of_not_mem_cons hname)).mp h)
        · intro h
          cases h with
          | star => exact absurd rfl hstar
          | mark => exact absurd rfl hmark
          | other _ _ h =>
            exact ⟨a, _, rfl, beq_iff_eq.mpr rfl, (ih (List.not_mem_of_not_mem_cons hname)).mpr h⟩

/-- A pattern without a placeholder is the same for every document. -/
theorem pieces_of_no_placeholder (h : ¬ placeholder <:+: pattern) (base : Text) :
    pieces pattern base = pattern.map Piece.ofChar := by
  rw [pieces, Text.replace_of_breakOn?_eq_none (Text.breakOn?_eq_none h)]

/-- **A pattern describes what its characters say.** Let a pattern have no placeholder, and a name
no line feed. Whatever the document is called, the expression that the pattern is written as can be
read, and it describes the name exactly if the characters of the pattern do, wildcards next to each
other and behind backslashes included. The same holds of the pieces of the pattern, against which a
sweep holds the name. -/
theorem compiled_describes_iff (hpattern : ¬ placeholder <:+: pattern) (hname : '\n' ∉ name)
    (base : Text) :
    (∃ e, compile? pattern base = some e ∧ (e.describes name = true ↔ Describes pattern name)) ∧
      (matchesName pattern base name = true ↔ Describes pattern name) := by
  have hpieces : matchesName pattern base name = true ↔ Describes pattern name := by
    rw [matchesName_of_noLineFeed hname, pieces_of_no_placeholder hpattern,
      accepts_iff_describes hname]
  refine ⟨⟨_, compile?_eq pattern base, ?_⟩, hpieces⟩
  have hcompiled := describes_iff_matchesName pattern base name
  rw [compile?_eq, Option.any_some] at hcompiled
  exact hcompiled.trans hpieces

/-- Backslashes stand in front of both wildcards, and two stars next to each other. The first star
takes two letters, the others nothing. -/
theorem compiled_describes_backslashes :
    let pattern := "[a]\\*\\?$**".toList
    let name := "[a]\\bc\\d$".toList
    ¬ placeholder <:+: pattern ∧ '\n' ∉ name ∧ Describes pattern name ∧
      ∀ base, (∃ e, compile? pattern base = some e ∧ e.describes name = true) ∧
        matchesName pattern base name = true := by
  intro pattern name
  have hpattern : ¬ placeholder <:+: pattern := by decide
  have hname : '\n' ∉ name := by decide
  have hother {c : Char} {p n : Text} (hc : c ≠ '*' ∧ c ≠ '?') (h : Describes p n) :
      Describes (c :: p) (c :: n) := .other hc.1 hc.2 h
  have hdescribes : Describes pattern name := by
    apply hother (by decide)
    apply hother (by decide)
    apply hother (by decide)
    apply hother (by decide)
    apply Describes.star ['b', 'c']
    apply hother (by decide)
    apply Describes.mark
    apply hother (by decide)
    exact .star [] (.star [] .nil)
  refine ⟨hpattern, hname, hdescribes, fun base => ?_⟩
  obtain ⟨⟨e, he, hiff⟩, hpieces⟩ := compiled_describes_iff hpattern hname base
  exact ⟨⟨e, he, hiff.mpr hdescribes⟩, hpieces.mpr hdescribes⟩

end Wildcard

end Typeset
