import Mathlib.Data.List.Infix
import Mathlib.Data.List.TakeWhile
import Typeset.Proofs.Log.ErrorLine
import Typeset.Proofs.Text.Numeral

/-!
# The forms of headings

What the parts that are read off a heading say about its line. The file of an error that names one
ends as source files do, a number and the text of the error follow, and no line without a source
mark is such an error. A notice is its source, its name and its volume in front of the message, and
nothing else on the line decides which of them it has.

## Main definitions

* `Log.Heading.kind`: the kind that a heading is of
* `Log.Heading.IsNumbered`, `Log.Heading.lineText`: the number of a line and a message behind it

## Main results

* `Log.Heading.kind_of_ofLine?`: the heading of a line is read as one of its kind
* `Log.Heading.eq_append_of_fileLine`: the file that an error names
* `Log.Heading.exists_of_sourceAndError?`: what stands around the name of that file
* `Log.Heading.fileLine?_eq_none`: lines without a source mark name no file
* `Log.Heading.notice?_eq_some_iff`: the lines that are notices
* `Log.Heading.exists_head_of_notice?`: a notice whose message is cut short is a notice
-/

namespace Typeset.Log.Heading

open Text

/-! ## The heading that each kind yields -/

theorem eq_of_output? {line : Text} {h : Heading} (hline : output? line = some h) :
    ∃ path, h = .output path := by
  simp only [output?, Option.bind_eq_bind, Option.bind_eq_some_iff] at hline
  obtain ⟨_, _, path, _, hh⟩ := hline
  exact ⟨path, (Option.some.inj hh).symm⟩

theorem eq_of_box? {line : Text} {h : Heading} (hline : box? line = some h) :
    ∃ head first last, h = .box head first last := by
  simp only [box?, Option.bind_eq_bind, Option.bind_eq_some_iff] at hline
  obtain ⟨_, _, _, _, ⟨first, last⟩, _, hh⟩ := hline
  exact ⟨_, first, last, (Option.some.inj hh).symm⟩

theorem eq_of_notice? {line : Text} {h : Heading} (hline : notice? line = some h) :
    ∃ source name volume message, h = .notice source name volume message := by
  simp only [notice?, Option.bind_eq_bind, Option.bind_eq_some_iff] at hline
  obtain ⟨⟨source, rest⟩, -, hline⟩ := hline
  split at hline
  · exact ⟨_, _, _, _, (Option.some.inj hline).symm⟩
  · obtain ⟨_, _, hh⟩ := Option.bind_eq_some_iff.mp hline
    exact ⟨_, _, _, _, (Option.some.inj hh).symm⟩

theorem eq_of_fileLine? {line : Text} {h : Heading} (hline : fileLine? line = some h) :
    ∃ path n origin message, h = .fileLine path n origin message := by
  simp only [fileLine?, Option.bind_eq_bind, Option.bind_eq_some_iff] at hline
  obtain ⟨⟨base, n, origin, message⟩, -, hline⟩ := hline
  split at hline
  · cases hline
  · exact ⟨_, n, origin, message, (Option.some.inj hline).symm⟩

/-- The kind that a heading is of. -/
def kind : Heading → Text → Option Heading
  | .output _ => output?
  | .fatal _ _ => fatal?
  | .fileLine _ _ _ _ => fileLine?
  | .box _ _ _ => box?
  | .notice _ _ _ _ => notice?

/-- The heading of a line is read as one of its own kind. -/
theorem kind_of_ofLine? {line : Text} {h : Heading} (hline : ofLine? line = some h) :
    h.kind line = some h := by
  obtain ⟨kind, hkind, hline⟩ := List.exists_of_findSome?_eq_some hline
  simp only [kinds, List.mem_cons, List.not_mem_nil, or_false] at hkind
  rcases hkind with rfl | rfl | rfl | rfl | rfl
  · obtain ⟨_, rfl⟩ := eq_of_output? hline
    exact hline
  · obtain ⟨-, _, _, rfl⟩ := eq_of_fatal? hline
    exact hline
  · obtain ⟨_, _, _, _, rfl⟩ := eq_of_fileLine? hline
    exact hline
  · obtain ⟨_, _, _, rfl⟩ := eq_of_box? hline
    exact hline
  · obtain ⟨_, _, _, _, rfl⟩ := eq_of_notice? hline
    exact hline

/-! ## Errors that name a file -/

/-- The file that an error names is a source file. -/
theorem eq_append_of_fileLine {line path : Text} {n : Nat} {origin : Option Text} {message : Text}
    (hline : fileLine? line = some (.fileLine path n origin message)) :
    ∃ base, base ≠ [] ∧ path = base ++ ".tex".toList := by
  simp only [fileLine?, Option.bind_eq_bind, Option.bind_eq_some_iff] at hline
  obtain ⟨⟨base, _⟩, -, hline⟩ := hline
  split at hline
  · cases hline
  · next hne =>
    cases hline
    exact ⟨base, by simpa using hne, rfl⟩

/-- The number of a line, and a message behind it. -/
structure IsNumbered (digits message : Text) : Prop where
  ne_nil : digits ≠ []
  length_le : digits.length ≤ 9
  digit : ∀ c ∈ digits, isDigit c
  message : message ≠ []

/-- The end of a source file's name, the number of a line and a message behind it. -/
def lineText (digits message : Text) : Text := sourceMark ++ (digits ++ (": ".toList ++ message))

theorem exists_of_numbered? {t : Text} {n : Nat} {e : Option Text × Text}
    (h : numbered? t = some (n, e)) :
    ∃ digits rest, IsNumbered digits rest ∧ number digits = n ∧ errorText? rest = some e ∧
      t = digits ++ (": ".toList ++ rest) := by
  simp only [numbered?, Option.bind_eq_bind, Option.bind_eq_some_iff] at h
  obtain ⟨⟨n', rest⟩, hnumber, rest', hrest', ⟨origin, m⟩, htext, heq⟩ := h
  cases heq
  obtain ⟨digits, rfl, hne, hlength, hdigits, hn⟩ := exists_of_shortNumber? hnumber
  have hmessage : rest' ≠ [] := by
    rintro rfl
    cases htext
  exact ⟨digits, rest', ⟨hne, hlength, hdigits, hmessage⟩, hn, htext,
    congrArg (digits ++ ·) (after?_eq_some_iff.mp hrest')⟩

/-- What stands around the name of a file that is read in front of a numbered error. -/
theorem exists_of_sourceAndError? {t base : Text} {n : Nat} {e : Option Text × Text}
    (h : sourceAndError? t = some (base, n, e)) :
    ∃ digits rest, IsNumbered digits rest ∧ number digits = n ∧ errorText? rest = some e ∧
      t = base ++ lineText digits rest := by
  induction t generalizing base with
  | nil => cases h
  | cons c t ih =>
    rw [sourceAndError?] at h
    split at h
    · next longer hlonger =>
      cases h
      split at hlonger
      · cases hlonger
      · obtain ⟨⟨base, found⟩, hfound, heq⟩ := Option.map_eq_some_iff.mp hlonger
        cases heq
        obtain ⟨digits, rest, hnumbered, hn, htext, rfl⟩ := ih hfound
        exact ⟨digits, rest, hnumbered, hn, htext, rfl⟩
    · simp only [Option.bind_eq_bind, Option.bind_eq_some_iff] at h
      obtain ⟨t', ht', found, hfound, heq⟩ := h
      cases heq
      obtain ⟨digits, rest, hnumbered, hn, htext, rfl⟩ := exists_of_numbered? hfound
      exact ⟨digits, rest, hnumbered, hn, htext, (after?_eq_some_iff.mp ht' :)⟩

theorem isInfix_of_sourceAndError? {t : Text} {found : Text × Nat × Option Text × Text}
    (h : sourceAndError? t = some found) : sourceMark <:+: t := by
  obtain ⟨digits, rest, -, -, -, rfl⟩ := exists_of_sourceAndError? h
  exact ⟨found.1, digits ++ (": ".toList ++ rest), List.append_assoc _ _ _⟩

/-- A line without a source mark is no error that names a file. -/
theorem fileLine?_eq_none {line : Text} (h : ¬ sourceMark <:+: line) : fileLine? line = none := by
  have hnone : sourceAndError? line = none := by
    cases hfound : sourceAndError? line with
    | none => rfl
    | some found => exact absurd (isInfix_of_sourceAndError? hfound) h
  simp [fileLine?, hnone]

/-- The heading of a line is an error that names a file only if the line has that form. -/
theorem fileLine?_of_ofLine? {line path : Text} {n : Nat} {origin : Option Text} {message : Text}
    (h : ofLine? line = some (.fileLine path n origin message)) :
    fileLine? line = some (.fileLine path n origin message) := kind_of_ofLine? h

/-! ## Notices -/

theorem dropFeed_of_not_mem {t : Text} (h : '\n' ∉ t) : dropFeed t = t := by
  rw [dropFeed, if_neg]
  intro hlast
  exact h (List.mem_of_mem_getLast? hlast)

theorem not_mem_trimLeft {c : Char} {t : Text} (h : c ∉ t) : c ∉ trimLeft t := fun hmem =>
  h ((List.dropWhile_suffix _).subset hmem)

theorem volumeAndMessage?_eq_some_iff {t : Text} (hfeed : '\n' ∉ t) {volume : Volume}
    {message : Text} :
    volumeAndMessage? t = some (volume, message) ↔
      ∃ rest, t = ' ' :: volume.label ++ ':' :: rest ∧ message = trimLeft rest := by
  constructor
  · intro h
    simp only [volumeAndMessage?, Option.bind_eq_bind, Option.bind_eq_some_iff] at h
    obtain ⟨t', ht', ⟨v, rest⟩, hv, hmessage⟩ := h
    obtain rfl := after?_eq_some_iff.mp ht'
    obtain ⟨v', -, hv'⟩ := List.exists_of_findSome?_eq_some hv
    obtain ⟨rest', hrest', heq⟩ := Option.map_eq_some_iff.mp hv'
    obtain ⟨rfl, rfl⟩ := Prod.mk.inj heq
    obtain rfl := after?_eq_some_iff.mp hrest'
    split at hmessage
    · cases hmessage
    · cases hmessage
      have hrest : '\n' ∉ rest' := fun hmem => hfeed (by simp [hmem])
      exact ⟨rest', by simp, dropFeed_of_not_mem (not_mem_trimLeft hrest)⟩
  · rintro ⟨rest, rfl, rfl⟩
    have hrest : '\n' ∉ trimLeft rest := not_mem_trimLeft fun hmem => hfeed (by simp [hmem])
    have hvolume : [Volume.warning, Volume.info].findSome? (fun v =>
        (after? (v.label ++ [':']) (volume.label ++ ':' :: rest)).map fun r => (v, r)) =
          some (volume, rest) := by
      cases volume <;> rfl
    simp only [volumeAndMessage?, List.cons_append, after?, if_true, Option.bind_eq_bind,
      Option.bind_some, hvolume, dropFeed_of_not_mem hrest, hrest, if_false]
    rfl

theorem namedNotice?_eq_some_iff {t : Text} (hfeed : '\n' ∉ t) {name : Text} {volume : Volume}
    {message : Text} :
    namedNotice? t = some (name, volume, message) ↔
      IsToken name ∧ ∃ rest, t = ' ' :: name ++ ' ' :: volume.label ++ ':' :: rest ∧
        message = trimLeft rest := by
  constructor
  · intro h
    simp only [namedNotice?, Option.bind_eq_bind, Option.bind_eq_some_iff] at h
    obtain ⟨t', ht', h⟩ := h
    obtain rfl := after?_eq_some_iff.mp ht'
    split at h
    · cases h
    · next hne =>
      obtain ⟨⟨v, m⟩, hv, heq⟩ := Option.bind_eq_some_iff.mp h
      cases heq
      have hfeed' : '\n' ∉ t'.dropWhile fun c => !isBlank c := fun hmem =>
        hfeed (List.mem_append_right _ ((List.dropWhile_suffix _).subset hmem))
      obtain ⟨rest, hrest, hm⟩ := (volumeAndMessage?_eq_some_iff hfeed').mp hv
      have htoken : IsToken (t'.takeWhile fun c => !isBlank c) :=
        ⟨by simpa using hne, fun c hc => by simpa using List.mem_takeWhile_imp hc⟩
      refine ⟨htoken, rest, ?_, hm⟩
      calc [' '] ++ t'
          = ' ' :: (t'.takeWhile (fun c => !isBlank c) ++ t'.dropWhile fun c => !isBlank c) := by
            rw [List.takeWhile_append_dropWhile]
            rfl
        _ = _ := by
            rw [hrest]
            simp only [List.cons_append, List.append_assoc]
  · rintro ⟨hname, rest, rfl, rfl⟩
    have hrun : ∀ c ∈ name, !isBlank c := fun c hc => by simp [hname.2 c hc]
    have hstop : ∀ c ∈ (' ' :: volume.label ++ ':' :: rest).head?, (!isBlank c) = false := by
      rintro _ ⟨⟩
      decide
    have hv : volumeAndMessage? (' ' :: volume.label ++ ':' :: rest) =
        some (volume, trimLeft rest) := by
      refine (volumeAndMessage?_eq_some_iff fun hmem => hfeed ?_).mpr ⟨rest, rfl, rfl⟩
      rw [List.append_assoc]
      exact List.mem_append_right (' ' :: name) hmem
    have hafter : after? [' '] (' ' :: name ++ ' ' :: volume.label ++ ':' :: rest) =
        some (name ++ (' ' :: volume.label ++ ':' :: rest)) := by
      rw [List.append_assoc]
      rfl
    have hne : name.isEmpty = false := by simpa using hname.1
    simp only [namedNotice?, Option.bind_eq_bind, hafter, Option.bind_some,
      takeWhile_append_of_head? hrun hstop, dropWhile_append_of_head? hrun hstop, hne, hv]
    rfl

/-- A notice up to the colon in front of its message. -/
def noticeHead (source : Source) (name : Option Text) (volume : Volume) : Text :=
  source.label ++ (name.elim [] (' ' :: ·)) ++ ' ' :: volume.label ++ [':']

theorem findSome?_source {line rest : Text} {source : Source} :
    [Source.package, .documentClass, .latex].findSome?
        (fun s => (after? s.label line).map fun r => (s, r)) = some (source, rest) ↔
      line = source.label ++ rest := by
  constructor
  · intro h
    obtain ⟨s, -, hs⟩ := List.exists_of_findSome?_eq_some h
    obtain ⟨r, hr, heq⟩ := Option.map_eq_some_iff.mp hs
    obtain ⟨rfl, rfl⟩ := Prod.mk.inj heq
    exact after?_eq_some_iff.mp hr
  · rintro rfl
    cases source <;> rfl

/-- A line is a notice if it begins as one. The name is left out only where none can be read. -/
theorem notice?_eq_some_iff {line : Text} (hfeed : '\n' ∉ line) {source : Source}
    {name : Option Text} {volume : Volume} {message : Text} :
    notice? line = some (.notice source name volume message) ↔
      (∀ n ∈ name, IsToken n) ∧ ∃ rest, line = noticeHead source name volume ++ rest ∧
        message = trimLeft rest ∧
        (name = none → namedNotice? (' ' :: volume.label ++ ':' :: rest) = none) := by
  constructor
  · intro h
    simp only [notice?, Option.bind_eq_bind, Option.bind_eq_some_iff] at h
    obtain ⟨⟨s, t⟩, hs, h⟩ := h
    obtain rfl := findSome?_source.mp hs
    have hfeed' : '\n' ∉ t := fun hmem => hfeed (List.mem_append_right _ hmem)
    split at h
    · next n v m hnamed =>
      cases h
      obtain ⟨hn, rest, rfl, hm⟩ := (namedNotice?_eq_some_iff hfeed').mp hnamed
      refine ⟨?_, rest, by simp [noticeHead], hm, fun hnone => by cases hnone⟩
      rintro _ ⟨⟩
      exact hn
    · next hnone =>
      obtain ⟨⟨v, m⟩, hv, heq⟩ := Option.bind_eq_some_iff.mp h
      cases heq
      obtain ⟨rest, rfl, hm⟩ := (volumeAndMessage?_eq_some_iff hfeed').mp hv
      refine ⟨?_, rest, by simp [noticeHead], hm, fun _ => hnone⟩
      rintro _ ⟨⟩
  · rintro ⟨hname, rest, rfl, rfl, hnone⟩
    cases name with
    | some n =>
      have hline : noticeHead source (some n) volume ++ rest =
          source.label ++ (' ' :: n ++ ' ' :: volume.label ++ ':' :: rest) := by
        simp [noticeHead]
      rw [hline] at hfeed ⊢
      have hnamed := (namedNotice?_eq_some_iff fun hmem =>
        hfeed (List.mem_append_right _ hmem)).mpr ⟨hname n rfl, rest, rfl, rfl⟩
      simp only [notice?, Option.bind_eq_bind, findSome?_source.mpr rfl, Option.bind_some, hnamed]
      rfl
    | none =>
      have hline : noticeHead source none volume ++ rest =
          source.label ++ (' ' :: volume.label ++ ':' :: rest) := by
        simp [noticeHead]
      rw [hline] at hfeed ⊢
      have hv := (volumeAndMessage?_eq_some_iff fun hmem =>
        hfeed (List.mem_append_right _ hmem)).mpr ⟨rest, rfl, rfl⟩
      simp only [notice?, Option.bind_eq_bind, findSome?_source.mpr rfl, Option.bind_some,
        hnone rfl, hv]
      rfl

/-- More text behind a notice with a name leaves it one. -/
theorem namedNotice?_append_ne_none {t : Text} (more : Text) (hfeed : '\n' ∉ t ++ more)
    (h : namedNotice? t ≠ none) : namedNotice? (t ++ more) ≠ none := by
  obtain ⟨⟨name, volume, message⟩, hsome⟩ := Option.ne_none_iff_exists'.mp h
  have hfeed' : '\n' ∉ t := fun hmem => hfeed (List.mem_append_left _ hmem)
  obtain ⟨hname, rest, rfl, -⟩ := (namedNotice?_eq_some_iff hfeed').mp hsome
  have hmore : ' ' :: name ++ ' ' :: volume.label ++ ':' :: rest ++ more =
      ' ' :: name ++ ' ' :: volume.label ++ ':' :: (rest ++ more) := by simp
  rw [(namedNotice?_eq_some_iff hfeed).mpr ⟨hname, _, hmore, rfl⟩]
  exact Option.some_ne_none _

/-- The line of a notice is a head with the message on it. With a beginning of the message on it,
the head is a notice whose message is that. A name that can be read in front of the beginning can be
read in front of the whole. -/
theorem exists_head_of_notice? {line : Text} (hfeed : '\n' ∉ line) {source : Source}
    {name : Option Text} {volume : Volume} {message : Text}
    (hline : notice? line = some (.notice source name volume message)) :
    ∃ head, line = head ++ message ∧ ∀ first later, message = first ++ later →
      startsBlank first = false →
        notice? (head ++ first) = some (.notice source name volume first) := by
  obtain ⟨hname, rest, hrest, hmessage, hnone⟩ := (notice?_eq_some_iff hfeed).mp hline
  have hsplit : rest = rest.takeWhile isBlank ++ message := by
    rw [hmessage]
    exact List.takeWhile_append_dropWhile.symm
  have hpad : ∀ c ∈ rest.takeWhile isBlank, isBlank c := fun c => List.mem_takeWhile_imp
  generalize rest.takeWhile isBlank = pad at hsplit hpad
  subst hsplit
  refine ⟨noticeHead source name volume ++ pad, by rw [hrest, List.append_assoc], ?_⟩
  rintro first later rfl hstart
  refine (notice?_eq_some_iff ?_).mpr ⟨hname, pad ++ first, by rw [List.append_assoc], ?_, ?_⟩
  · rw [hrest, ← List.append_assoc, ← List.append_assoc] at hfeed
    exact fun hmem => hfeed (List.mem_append_left _ hmem)
  · rw [trimLeft, dropWhile_append_of_head? hpad (startsBlank_eq_false_iff.mp hstart)]
  · intro hname
    by_contra hsome
    refine namedNotice?_append_ne_none later ?_ hsome (by simpa using hnone hname)
    have hwhole : line =
        source.label ++ (' ' :: volume.label ++ ':' :: (pad ++ first) ++ later) := by
      rw [hrest, hname]
      simp [noticeHead]
    exact fun hmem => hfeed (hwhole ▸ List.mem_append_right source.label hmem)

end Typeset.Log.Heading
