import Mathlib.Data.List.Forall2
import Typeset.Latexmk.MagicComment
import Typeset.Proofs.Text.Headline

/-!
# What a magic comment says

A magic comment has a fixed form, and a line that has this form names one program. A document asks
for the engine of the first line of its header whose program is an engine. The header is the longest
run of blank lines and comments at the beginning of a document, so nothing behind it matters.

## Main definitions

* `MagicComment.Names`: the form of a magic comment
* `MagicComment.AsksFor`: a line asks for an engine
* `MagicComment.IsHeader`: the longest run of blank lines and comments at the beginning

## Main results

* `MagicComment.program?_eq_some_iff`: the program is read from lines of that form, and no others
* `MagicComment.engine?_eq_some_iff`, `MagicComment.engine?_eq_none_iff`: the engine of a document
* `MagicComment.header_append`: what follows the header does not matter
-/

namespace Typeset

namespace Text

variable {t u v line : Text} {c : Char}

/-! ## Blanks and line breaks -/

/-- No word character is a blank. There are few blanks, so each of them is looked up in the table of
word characters. -/
theorem isBlank_of_isWord (h : isWord c = true) : isBlank c = false := by
  have hall : ∀ n ∈ [9, 10, 11, 12, 13, 28, 29, 30, 31, 32, 0x85, 0xA0, 0x1680, 0x2000, 0x2001,
      0x2002, 0x2003, 0x2004, 0x2005, 0x2006, 0x2007, 0x2008, 0x2009, 0x200A, 0x2028, 0x2029,
      0x202F, 0x205F, 0x3000], isWord (Char.ofNat n) = false := by decide +kernel
  by_contra hblank
  have hc := hall c.toNat (by
    simp only [isBlank, Bool.not_eq_false, Bool.or_eq_true, Bool.and_eq_true, decide_eq_true_eq,
      beq_iff_eq] at hblank
    simp only [List.mem_cons, List.not_mem_nil, or_false]
    omega)
  rw [Char.ofNat_toNat, h] at hc
  cases hc

/-- A text is some blanks and what is left when they are taken away. -/
theorem exists_eq_append_trimLeft (t : Text) :
    ∃ pad, t = pad ++ trimLeft t ∧ ∀ c ∈ pad, isBlank c = true :=
  ⟨t.takeWhile isBlank, List.takeWhile_append_dropWhile.symm, fun _ => List.mem_takeWhile_imp⟩

theorem startsBlank_trimLeft (t : Text) : startsBlank (trimLeft t) = false := by
  rw [startsBlank_eq_false_iff]
  intro c hc
  have := List.head?_dropWhile_not isBlank t
  rw [← trimLeft, hc] at this
  simpa using this

theorem trimLeft_append_of_startsBlank {pad : Text} (hpad : ∀ c ∈ pad, isBlank c = true)
    (h : startsBlank u = false) : trimLeft (pad ++ u) = u := by
  rw [trimLeft_append hpad, trimLeft, dropWhile_of_head? (startsBlank_eq_false_iff.mp h)]

theorem startsWord_eq_false_iff : startsWord t = false ↔ ∀ c ∈ t.head?, isWord c = false := by
  cases t <;> simp [startsWord]

/-- A run of word characters is followed by something else or nothing. -/
theorem startsWord_dropWhile (t : Text) : startsWord (t.dropWhile isWord) = false := by
  have hhead := List.head?_dropWhile_not isWord t
  cases h : t.dropWhile isWord with
  | nil => rfl
  | cons c u => simpa [startsWord, h] using hhead

/-- The text is empty or ends with a line break. -/
def EndsLine (t : Text) : Prop := ∀ c ∈ t.getLast?, isLineBreak c = true

theorem splitLinesFrom_cons (line : Text) (h : c = '\r' → v.head? ≠ some '\n') :
    splitLinesFrom line (c :: v) =
      if isLineBreak c then line.reverse :: splitLinesFrom [] v
      else splitLinesFrom (c :: line) v := by
  rw [splitLinesFrom]
  rintro w rfl rfl
  exact h rfl rfl

/-- A carriage return is joined with a line feed only where the text itself does so. -/
theorem head?_append_ne_lineFeed (hpair : ∀ w, c = '\r' → u = '\n' :: w → False)
    (hbreak : (c :: u).getLast? = some '\r' → v.head? ≠ some '\n') (hc : c = '\r') :
    (u ++ v).head? ≠ some '\n' := by
  cases u with
  | nil => exact hbreak (congrArg some hc)
  | cons d w =>
    rintro hd
    exact hpair w hc (by rw [Option.some.inj hd])

/-- Behind a line break the lines begin anew. -/
theorem splitLinesFrom_append (hend : EndsLine u) (hempty : u = [] → line = [])
    (hbreak : u.getLast? = some '\r' → v.head? ≠ some '\n') :
    splitLinesFrom line (u ++ v) = splitLinesFrom line u ++ splitLinesFrom [] v := by
  fun_induction splitLinesFrom line u with
  | case1 line _ => rw [hempty rfl]; rfl
  | case2 line hline => exact absurd (hempty rfl) (by simpa using hline)
  | case3 line t ih =>
    rw [List.cons_append, List.cons_append, splitLinesFrom, List.cons_append,
      ih (fun c hc => hend c (List.mem_getLast?_cons (List.mem_getLast?_cons hc))) (fun _ => rfl)
        fun ht => hbreak (List.mem_getLast?_cons (List.mem_getLast?_cons ht))]
  | case4 line c t hpair hc ih =>
    rw [List.cons_append, splitLinesFrom_cons line (head?_append_ne_lineFeed hpair hbreak),
      if_pos hc, List.cons_append,
      ih (fun d hd => hend d (List.mem_getLast?_cons hd)) (fun _ => rfl)
        fun ht => hbreak (List.mem_getLast?_cons ht)]
  | case5 line c t hpair hc ih =>
    have hne : t ≠ [] := by
      rintro rfl
      exact hc (hend c rfl)
    rw [List.cons_append, splitLinesFrom_cons line (head?_append_ne_lineFeed hpair hbreak),
      if_neg hc, ih (fun d hd => hend d (List.mem_getLast?_cons hd)) (fun h => absurd h hne)
        fun ht => hbreak (List.mem_getLast?_cons ht)]

theorem splitLines_append (hend : EndsLine u)
    (hbreak : u.getLast? = some '\r' → v.head? ≠ some '\n') :
    splitLines (u ++ v) = splitLines u ++ splitLines v :=
  splitLinesFrom_append hend (fun _ => rfl) hbreak

end Text

namespace MagicComment

open Text (isBlank isWord trim trimLeft startsBlank startsWord splitLines EndsLine)

variable {line name t u v w : Text} {a c : Char} {e : Engine}

/-! ## Words in upper or lower case -/

/-- The text is a word in upper or lower case. -/
def SameWord (word t : Text) : Prop := List.Forall₂ (fun a c => sameLetter a c = true) word t

/-- Neither a capital letter nor its small one is a blank. -/
theorem isBlank_toLower (c : Char) : isBlank c.toLower = isBlank c := by
  unfold Char.toLower
  split
  · next h =>
    have hleast : 65 ≤ c.toNat := h.1
    have hmost : c.toNat ≤ 90 := h.2
    have hadd : (c.val + ('a'.val - 'A'.val)).toNat = c.toNat + 32 := by
      have hc : c.val.toNat = c.toNat := rfl
      have hdistance : ('a'.val - 'A'.val).toNat = 32 := rfl
      rw [UInt32.toNat_add, hdistance, hc]
      omega
    have hsmall : ∀ hv, (Char.mk (c.val + ('a'.val - 'A'.val)) hv).toNat = c.toNat + 32 :=
      fun _ => hadd
    rw [Bool.eq_iff_iff]
    simp only [isBlank, hsmall, Bool.or_eq_true, Bool.and_eq_true, decide_eq_true_eq, beq_iff_eq]
    omega
  · rfl

theorem isBlank_eq_of_sameLetter (h : sameLetter a c = true) : isBlank c = isBlank a := by
  have hfold (c : Char) : isBlank (if c = 'ſ' then 's' else c.toLower) = isBlank c := by
    split
    · next hc =>
      rw [hc]
      rfl
    · exact isBlank_toLower c
  simp only [sameLetter, decide_eq_true_eq] at h
  rw [← hfold c, ← h, hfold a]

/-- A word that does not begin with a blank does not do so in other letters. -/
theorem SameWord.startsBlank_append (h : SameWord w u) (hne : w ≠ []) (v : Text) :
    startsBlank (u ++ v) = startsBlank w := by
  cases h with
  | nil => exact absurd rfl hne
  | cons hletter _ => exact isBlank_eq_of_sameLetter hletter

theorem afterWord?_eq_some_iff : afterWord? w t = some v ↔ ∃ u, SameWord w u ∧ t = u ++ v := by
  induction w generalizing t with
  | nil =>
    rw [afterWord?]
    constructor
    · rintro ⟨⟩
      exact ⟨[], .nil, rfl⟩
    · rintro ⟨_, ⟨⟩, rfl⟩
      rfl
  | cons a w ih =>
    cases t with
    | nil =>
      rw [afterWord?]
      refine ⟨nofun, ?_⟩
      rintro ⟨_, ⟨⟩, ⟨⟩⟩
    | cons c t =>
      rw [afterWord?]
      constructor
      · intro h
        split at h
        · next hletter =>
          obtain ⟨u, hu, rfl⟩ := ih.mp h
          exact ⟨c :: u, .cons hletter hu, rfl⟩
        · cases h
      · rintro ⟨_, hword, heq⟩
        cases hword with
        | cons hletter hu =>
          obtain ⟨rfl, rfl⟩ := List.cons.inj heq
          rw [if_pos hletter]
          exact ih.mpr ⟨_, hu, rfl⟩

theorem afterBlanks?_eq_some_iff :
    afterBlanks? t = some v ↔
      ∃ gap, gap ≠ [] ∧ (∀ c ∈ gap, isBlank c = true) ∧ startsBlank v = false ∧ t = gap ++ v := by
  rw [afterBlanks?]
  constructor
  · intro h
    split at h
    · next hstarts =>
      cases h
      obtain ⟨gap, ht, hgap⟩ := Text.exists_eq_append_trimLeft t
      have hv := Text.startsBlank_trimLeft t
      refine ⟨gap, ?_, hgap, hv, ht⟩
      rintro rfl
      rw [List.nil_append] at ht
      rw [← ht, hstarts] at hv
      cases hv
    · cases h
  · rintro ⟨gap, hne, hgap, hv, rfl⟩
    obtain ⟨c, gap, rfl⟩ := List.exists_cons_of_ne_nil hne
    have hstarts : startsBlank (c :: gap ++ v) = true := hgap c List.mem_cons_self
    rw [if_pos hstarts, Text.trimLeft_append_of_startsBlank hgap hv]

/-! ## The form of a magic comment -/

/-- The line is a comment sign, the mark of a magic comment, the announcement of a program and an
equals sign, and then `name`. There may be blanks between these; behind the mark there is at least
one. The name is a run of word characters that goes on as far as it can. -/
def Names (line name : Text) : Prop :=
  ∃ gap mark space announcement program before after rest,
    line = '%' :: gap ++ mark ++ space ++ announcement ++ program ++ before ++ '=' :: after ++ name
      ++ rest ∧
    SameWord "!TEX".toList mark ∧
    (announcement = [] ∨ SameWord "TS-".toList announcement) ∧
    SameWord "program".toList program ∧
    (∀ t ∈ [gap, space, before, after], ∀ c ∈ t, isBlank c = true) ∧ space ≠ [] ∧
    name ≠ [] ∧ (∀ c ∈ name, isWord c = true) ∧ startsWord rest = false

/-- What is behind the mark of a magic comment may be announced. -/
theorem exists_announcement (t : Text) :
    ∃ announcement, (announcement = [] ∨ SameWord "TS-".toList announcement) ∧
      t = announcement ++ (afterWord? "TS-".toList t).getD t := by
  cases h : afterWord? "TS-".toList t with
  | none => exact ⟨[], .inl rfl, rfl⟩
  | some v =>
    obtain ⟨u, hu, rfl⟩ := afterWord?_eq_some_iff.mp h
    exact ⟨u, .inr hu, rfl⟩

/-- A program is never taken for its announcement. -/
theorem afterWord?_announcement_program (h : SameWord "program".toList u) (v : Text) :
    afterWord? "TS-".toList (u ++ v) = none := by
  cases h with
  | @cons _ c _ u hletter _ =>
    apply if_neg
    intro hother
    simp only [sameLetter, decide_eq_true_eq] at hletter hother
    rw [← hletter] at hother
    cases hother

/-- What is read was written in the form of a magic comment. -/
theorem names_of_program? (h : program? line = some name) : Names line name := by
  simp only [program?, Option.bind_eq_bind, Option.bind_eq_some_iff] at h
  obtain ⟨t₁, hsign, t₂, hmarked, t₃, hspaced, t₄, hprogrammed, t₅, hequals, hnamed⟩ := h
  obtain rfl := Text.after?_eq_some_iff.mp hsign
  obtain ⟨mark, hmark, ht₁⟩ := afterWord?_eq_some_iff.mp hmarked
  obtain ⟨space, hne, hspace, -, rfl⟩ := afterBlanks?_eq_some_iff.mp hspaced
  obtain ⟨announcement, hannouncement, ht₃⟩ := exists_announcement t₃
  obtain ⟨program, hprogram, hannounced⟩ := afterWord?_eq_some_iff.mp hprogrammed
  have ht₄ := Text.after?_eq_some_iff.mp hequals
  obtain ⟨gap, hgap, hgapBlank⟩ := Text.exists_eq_append_trimLeft t₁
  obtain ⟨before, hbefore, hbeforeBlank⟩ := Text.exists_eq_append_trimLeft t₄
  obtain ⟨after, hafter, hafterBlank⟩ := Text.exists_eq_append_trimLeft t₅
  split at hnamed
  · cases hnamed
  · next hsome =>
    cases hnamed
    rw [ht₁] at hgap
    rw [hannounced] at ht₃
    rw [ht₄] at hbefore
    rw [← List.takeWhile_append_dropWhile (p := isWord) (l := trimLeft t₅)] at hafter
    refine ⟨gap, mark, space, announcement, program, before, after,
      (trimLeft t₅).dropWhile isWord, ?_, hmark, hannouncement, hprogram, ?_, hne,
      by simpa using hsome, fun c hc => List.mem_takeWhile_imp hc, Text.startsWord_dropWhile _⟩
    · conv_lhs => rw [hgap, ht₃, hbefore, hafter]
      simp only [List.append_assoc, List.cons_append, List.nil_append]
    · simpa using ⟨hgapBlank, hspace, hbeforeBlank, hafterBlank⟩

/-- A line of that form is read. -/
theorem Names.program?_eq (h : Names line name) : program? line = some name := by
  obtain ⟨gap, mark, space, announcement, program, before, after, rest, rfl, hmark,
    hannouncement, hprogram, hblank, hne, hname, hword, hrest⟩ := h
  rw [List.forall_mem_cons, List.forall_mem_cons, List.forall_mem_cons,
    List.forall_mem_singleton] at hblank
  obtain ⟨hgap, hspace, hbefore, hafter⟩ := hblank
  have hannounced (v : Text) : startsBlank (announcement ++ (program ++ v)) = false ∧
      (afterWord? "TS-".toList (announcement ++ (program ++ v))).getD
        (announcement ++ (program ++ v)) = program ++ v := by
    rcases hannouncement with rfl | hword
    · rw [List.nil_append, afterWord?_announcement_program hprogram]
      exact ⟨hprogram.startsBlank_append (List.cons_ne_nil _ _) v, rfl⟩
    · rw [afterWord?_eq_some_iff.mpr ⟨announcement, hword, rfl⟩]
      exact ⟨hword.startsBlank_append (List.cons_ne_nil _ _) _, rfl⟩
  simp only [program?, Option.bind_eq_bind, Option.bind_eq_some_iff, List.append_assoc,
    List.cons_append]
  have hmarkHead (v : Text) : startsBlank (mark ++ v) = false :=
    hmark.startsBlank_append (List.cons_ne_nil _ _) v
  have htoken : Text.IsToken name := ⟨hname, fun c hc => Text.isBlank_of_isWord (hword c hc)⟩
  have hnameHead : startsBlank (name ++ rest) = false :=
    (Text.startsBlank_append_of_ne_nil hname rest).trans htoken.startsBlank
  refine ⟨_, Text.after?_append ['%'] _,
    _, afterWord?_eq_some_iff.mpr
      ⟨mark, hmark, Text.trimLeft_append_of_startsBlank hgap (hmarkHead _)⟩,
    _, afterBlanks?_eq_some_iff.mpr ⟨space, hne, hspace, (hannounced _).1, rfl⟩,
    _, afterWord?_eq_some_iff.mpr ⟨program, hprogram, (hannounced _).2⟩,
    after ++ (name ++ rest),
    Text.after?_eq_some_iff.mpr (Text.trimLeft_append_of_startsBlank hbefore rfl), ?_⟩
  rw [Text.trimLeft_append_of_startsBlank hafter hnameHead,
    Text.takeWhile_append_of_head? hword (Text.startsWord_eq_false_iff.mp hrest),
    if_neg (by simpa using hname)]

theorem program?_eq_some_iff : program? line = some name ↔ Names line name :=
  ⟨names_of_program?, Names.program?_eq⟩

/-! ## The engine of a line -/

/-- The line, without the blanks around it, names an engine in upper or lower case. -/
def AsksFor (line : Text) (e : Engine) : Prop :=
  ∃ name, Names (trim line) name ∧ Text.lower name = e.name.toList

theorem lineEngine?_eq_some_iff : lineEngine? line = some e ↔ AsksFor line e := by
  simp only [lineEngine?, Option.bind_eq_some_iff, program?_eq_some_iff, Engine.ofName?_eq_some_iff,
    AsksFor]

theorem lineEngine?_eq_none_iff : lineEngine? line = none ↔ ∀ e, ¬AsksFor line e := by
  simp only [Option.eq_none_iff_forall_ne_some, ne_eq, lineEngine?_eq_some_iff]

/-! ## The header of a document -/

/-- The line is blank or a comment. -/
def Opens (line : Text) : Prop := trim line = [] ∨ (trim line).head? = some '%'

/-- The lines are the longest run of blank lines and comments that the text begins with. -/
structure IsHeader (t : Text) (lines : List Text) : Prop where
  opens : ∀ line ∈ lines, Opens line
  longest : ∃ body, splitLines t = lines ++ body ∧ ∀ line ∈ body.head?, ¬Opens line

theorem isHeaderLine_iff : isHeaderLine line = true ↔ Opens line := by
  unfold isHeaderLine Opens
  cases trim line <;> simp

theorem isHeaderLine_eq_false_iff : isHeaderLine line = false ↔ ¬Opens line := by
  rw [← isHeaderLine_iff, Bool.not_eq_true]

theorem takeWhile_isHeaderLine_eq_nil {body : List Text} (h : ∀ line ∈ body.head?, ¬Opens line) :
    body.takeWhile isHeaderLine = [] := by
  cases body with
  | nil => rfl
  | cons line body =>
    rw [List.takeWhile_cons, isHeaderLine_eq_false_iff.mpr (h line rfl)]
    rfl

/-- The longest run is there, and there is no other. -/
theorem isHeader_iff {lines : List Text} : IsHeader t lines ↔ lines = header t := by
  constructor
  · rintro ⟨hopens, body, hlines, hbody⟩
    rw [header, hlines,
      List.takeWhile_append_of_pos fun line hline => isHeaderLine_iff.mpr (hopens line hline),
      takeWhile_isHeaderLine_eq_nil hbody, List.append_nil]
  · rintro rfl
    refine ⟨fun line hline => isHeaderLine_iff.mp (List.mem_takeWhile_imp hline),
      (splitLines t).dropWhile isHeaderLine, List.takeWhile_append_dropWhile.symm, ?_⟩
    intro line hline hopens
    have hhead := List.head?_dropWhile_not isHeaderLine (splitLines t)
    rw [Option.mem_def.mp hline] at hhead
    exact isHeaderLine_eq_false_iff.mp hhead hopens

/-! ## The engine of a document -/

theorem engine?_eq_some_iff : engine? t = some e ↔
    ∃ before line after, header t = before ++ line :: after ∧ AsksFor line e ∧
      ∀ line ∈ before, ∀ e, ¬AsksFor line e := by
  simp only [engine?, List.findSome?_eq_some_iff, lineEngine?_eq_some_iff, lineEngine?_eq_none_iff]

theorem engine?_eq_none_iff : engine? t = none ↔ ∀ line ∈ header t, ∀ e, ¬AsksFor line e := by
  simp only [engine?, List.findSome?_eq_none_iff, lineEngine?_eq_none_iff]

/-- A text whose first line is neither blank nor a comment does not begin with a line feed. -/
theorem head?_ne_lineFeed (h : ∀ line ∈ (splitLines v).head?, ¬Opens line) :
    v.head? ≠ some '\n' := by
  intro hv
  obtain ⟨w, rfl⟩ := List.head?_eq_some_iff.mp hv
  have hlines : splitLines ('\n' :: w) = [] :: Text.splitLinesFrom [] w :=
    Text.splitLinesFrom_cons [] (fun hc => absurd hc (by decide))
  rw [hlines] at h
  exact h [] rfl (.inl rfl)

/-- Behind complete lines, the first line that is neither blank nor a comment ends the header. -/
theorem header_append (hend : EndsLine u) (hbody : ∀ line ∈ (splitLines v).head?, ¬Opens line) :
    header (u ++ v) = header u := by
  rw [header, Text.splitLines_append hend fun _ => head?_ne_lineFeed hbody, List.takeWhile_append,
    takeWhile_isHeaderLine_eq_nil hbody, List.append_nil]
  split
  · next hall => exact (List.takeWhile_prefix _).eq_of_length hall |>.symm
  · rfl

end MagicComment

end Typeset
