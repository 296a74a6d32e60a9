import Typeset.Proofs.Log.Form
import Typeset.Proofs.Log.InputLine
import Typeset.Proofs.Log.Partition
import Typeset.Proofs.Path.Written

/-!
# Excerpts

An excerpt is meant to be a phrase: one line of words with single spaces between them. Whether it is
one depends on what is done last. The text of an error is squeezed when all its parts are joined, so
it always is a phrase. The text of a notice is squeezed first; then an input line and a period at
its end are left out, and a label is put in front of it. A space may be left behind the last word or
behind the label. What a box says is copied from its line as it stands.

## Main definitions

* `Log.Heading.IsTidy`: what a heading must be like for its excerpt to be a phrase

## Main results

* `Log.isPhrase_noticeExcerpt_iff`, `Log.isPhrase_boxHead_iff`: the excerpts of notices and boxes
* `Log.excerpt_isPhrase_iff`: the excerpts of any log
* `Log.untidy_excerpts`: excerpts that are no phrases
-/

namespace Typeset

open Text

/-! ## Lines -/

theorem Text.dropReturn_isPrefix (t : Text) : dropReturn t <+: t := by
  unfold dropReturn
  split
  · exact List.dropLast_prefix t
  · exact List.prefix_refl t

theorem Text.exists_prefix_of_mem_dropReturns {ts : List Text} {line : Text}
    (h : line ∈ dropReturns ts) : ∃ t ∈ ts, line <+: t := by
  induction ts with
  | nil => cases h
  | cons t ts ih =>
    cases ts with
    | nil => exact ⟨line, h, List.prefix_refl line⟩
    | cons next ts =>
      rcases List.mem_cons.mp h with rfl | h
      · exact ⟨t, List.mem_cons_self, dropReturn_isPrefix t⟩
      · obtain ⟨u, hu, hline⟩ := ih h
        exact ⟨u, List.mem_cons_of_mem t hu, hline⟩

/-- The lines of a log hold no line feeds. -/
theorem Text.not_mem_of_mem_logLines {t line : Text} (h : line ∈ logLines t) : '\n' ∉ line := by
  obtain ⟨u, hu, hline⟩ := exists_prefix_of_mem_dropReturns h
  intro hmem
  exact not_mem_of_mem_splitOn hu (hline.subset hmem)

namespace Log

variable (source : Source) {name : Option Text} {text : Text}

/-! ## Notices -/

theorem isPhrase_dropInputLine (h : IsPhrase text) : IsPhrase (dropInputLine text) := by
  by_cases hends : ∃ front digits, EndsInInputLine text front digits
  · obtain ⟨front, digits, hends⟩ := hends
    obtain ⟨stop, -, heq⟩ := hends.eq_append
    rw [dropInputLine_of_endsIn hends]
    exact h.trimRight_of_prefix ⟨_, heq.symm⟩
  · rw [dropInputLine_of_not_endsIn fun front digits h => hends ⟨front, digits, h⟩]
    exact h

theorem dropPeriod_eq_nil_iff : dropPeriod text = [] ↔ text ∈ [[], ['.']] := by
  obtain ⟨stop, hstop, heq⟩ := exists_eq_dropPeriod_append text
  constructor
  · intro hnil
    rw [heq, hnil]
    exact hstop
  · intro hmem
    rcases List.mem_pair.mp hmem with rfl | rfl <;> rfl

/-- A phrase without its period ends in a space if the period stands apart, and is a phrase
otherwise. -/
theorem dropPeriod_cases (h : IsPhrase text) :
    (¬ " .".toList <:+ text ∧ IsPhrase (dropPeriod text)) ∨
      (" .".toList <:+ text ∧ ∃ u, IsPhrase u ∧ u ≠ [] ∧ dropPeriod text = u ++ [' ']) := by
  by_cases hends : " .".toList <:+ text
  · obtain ⟨u, rfl⟩ := hends
    obtain ⟨hu, hune, -, -⟩ := h.spaced.of_append_space
    refine .inr ⟨⟨u, rfl⟩, u, hu.isPhrase, hune, ?_⟩
    have hsplit : u ++ " .".toList = u ++ [' '] ++ ['.'] := by simp
    rw [hsplit, dropPeriod_append]
  · refine .inl ⟨hends, ?_⟩
    obtain ⟨stop, hstop, heq⟩ := exists_eq_dropPeriod_append text
    have hspaced := h.spaced
    rw [heq] at hspaced
    refine (hspaced.left fun c hc => ?_).isPhrase
    rcases List.mem_pair.mp hstop with rfl | rfl
    · rw [List.append_nil] at hspaced
      exact hspaced.getLast? c hc
    · cases hb : isBlank c with
      | false => rfl
      | true =>
        obtain ⟨u, hu⟩ := List.getLast?_eq_some_iff.mp hc
        rw [hu, List.append_assoc] at hspaced
        obtain ⟨rfl, -⟩ := hspaced u c ['.'] rfl hb
        refine absurd ⟨u, ?_⟩ hends
        rw [heq, hu, List.append_assoc]
        rfl

/-- A label is a phrase and a space. -/
theorem noticeLabel_cases (hname : ∀ n ∈ name, IsToken n) :
    noticeLabel source name = [] ∨
      ∃ label, IsPhrase label ∧ label ≠ [] ∧ noticeLabel source name = label ++ [' '] := by
  have hsource : ∀ s : Source, IsPhrase s.label ∧ s.label ≠ [] ∧ IsPhrase (s.label ++ [':']) := by
    intro s
    cases s <;> decide
  cases name with
  | some n =>
    obtain ⟨hword, hne, -⟩ := hsource source
    have hn : IsPhrase (n ++ [':']) := by
      refine isPhrase_of_not_blank fun c hc => ?_
      rcases List.mem_append.mp hc with hc | hc
      · exact (hname n rfl).2 c hc
      · obtain rfl := List.mem_singleton.mp hc
        decide
    refine .inr ⟨source.label ++ ' ' :: (n ++ [':']), hword.append_space hne hn (by simp),
      by simp, ?_⟩
    simp [noticeLabel]
  | none =>
    by_cases hlatex : source = .latex
    · exact .inl (if_pos hlatex)
    · obtain ⟨-, -, hcolon⟩ := hsource source
      refine .inr ⟨source.label ++ [':'], hcolon, by simp, ?_⟩
      simp [noticeLabel, hlatex]

/-- Behind a label there are words, and no period stands apart at their end, once the input line is
left out. -/
def IsTidyNotice (source : Source) (name : Option Text) (text : Text) : Prop :=
  ¬ " .".toList <:+ dropInputLine text ∧
    (noticeLabel source name ≠ [] → dropInputLine text ∉ [[], ['.']])

instance (source : Source) (name : Option Text) (text : Text) :
    Decidable (IsTidyNotice source name text) := inferInstanceAs (Decidable (_ ∧ _))

/-- The excerpt of a notice is a phrase, or a phrase with a space at its end. That is the space
behind the label or the one in front of the period. -/
theorem noticeExcerpt_cases (hname : ∀ n ∈ name, IsToken n) (h : IsPhrase text) :
    (IsTidyNotice source name text ∧ IsPhrase (noticeExcerpt source name text)) ∨
      (¬ IsTidyNotice source name text ∧
        ∃ u, IsPhrase u ∧ noticeExcerpt source name text = u ++ [' ']) := by
  have hwords := isPhrase_dropInputLine h
  unfold IsTidyNotice noticeExcerpt
  rcases dropPeriod_cases hwords with ⟨hends, hperiod⟩ | ⟨hends, u, hu, hune, hperiod⟩
  · rcases noticeLabel_cases source hname with hlabel | ⟨label, hphrase, hne, hlabel⟩
    · rw [hlabel]
      exact .inl ⟨⟨hends, fun hne => absurd rfl hne⟩, hperiod⟩
    · rw [hlabel, List.append_assoc, List.singleton_append]
      by_cases hnil : dropPeriod (dropInputLine text) = []
      · refine .inr ⟨fun htidy => ?_, label, hphrase, by rw [hnil]⟩
        exact htidy.2 (by simp) (dropPeriod_eq_nil_iff.mp hnil)
      · refine .inl ⟨⟨hends, fun _ hmem => hnil (dropPeriod_eq_nil_iff.mpr hmem)⟩, ?_⟩
        exact hphrase.append_space hne hperiod hnil
  · refine .inr ⟨fun htidy => htidy.1 hends, ?_⟩
    rcases noticeLabel_cases source hname with hlabel | ⟨label, hphrase, hne, hlabel⟩
    · exact ⟨u, hu, by rw [hlabel, List.nil_append, hperiod]⟩
    · refine ⟨label ++ ' ' :: u, hphrase.append_space hne hu hune, ?_⟩
      rw [hlabel, hperiod]
      simp

theorem isPhrase_noticeExcerpt_iff (hname : ∀ n ∈ name, IsToken n) (h : IsPhrase text) :
    IsPhrase (noticeExcerpt source name text) ↔ IsTidyNotice source name text := by
  rcases noticeExcerpt_cases source hname h with ⟨htidy, hphrase⟩ | ⟨htidy, u, -, heq⟩
  · exact iff_of_true hphrase htidy
  · rw [heq]
    exact iff_of_false (not_isPhrase_append_space u) htidy

/-! ## Boxes -/

theorem exists_of_box? {line head : Text} {first : Nat} {last : Option Nat}
    (h : Heading.box? line = some (.box head first last)) :
    head <+: line ∧ ∃ start ∈ Heading.boxStarts, ∃ measure, head = start ++ measure ++ [')'] := by
  simp only [Heading.box?, Option.bind_eq_bind, Option.bind_eq_some_iff] at h
  obtain ⟨⟨start, rest⟩, hstart, rest', hrest', _, -, heq⟩ := h
  cases heq
  obtain ⟨s, hs, hs'⟩ := List.exists_of_findSome?_eq_some hstart
  obtain ⟨r, hr, heq⟩ := Option.map_eq_some_iff.mp hs'
  cases heq
  refine ⟨⟨rest', ?_⟩, start, hs, _, rfl⟩
  rw [after?_eq_some_iff.mp hr, List.append_assoc, List.append_assoc,
    ← after?_eq_some_iff.mp hrest', List.takeWhile_append_dropWhile]

/-- The words of a box are single, so its measure decides. -/
theorem isPhrase_boxHead_iff {start measure : Text} (h : start ∈ Heading.boxStarts) :
    IsPhrase (start ++ measure ++ [')']) ↔
      IsPhrase ((start ++ measure ++ [')']).dropWhile (· ≠ '(')) := by
  have hstarts : ∀ start ∈ Heading.boxStarts,
      ∃ words, IsPhrase words ∧ words ≠ [] ∧ '(' ∉ words ∧ start = words ++ " (".toList := by
    intro start h
    refine ⟨start.take (start.length - 2), ?_⟩
    revert start
    decide
  obtain ⟨words, hwords, hne, hbracket, rfl⟩ := hstarts start h
  have hhead : words ++ " (".toList ++ measure ++ [')'] =
      words ++ ' ' :: ('(' :: (measure ++ [')'])) := by simp
  have hdrop : (words ++ ' ' :: ('(' :: (measure ++ [')']))).dropWhile (· ≠ '(') =
      '(' :: (measure ++ [')']) := by
    rw [List.append_cons]
    refine dropWhile_append_of_head? (fun c hc => ?_) ?_
    · simp only [ne_eq, decide_not, Bool.not_eq_true', decide_eq_false_iff_not]
      rintro rfl
      exact absurd (List.mem_append.mp hc) (by simp [hbracket])
    · rintro _ ⟨⟩
      rfl
  rw [hhead, hdrop, hwords.append_space_iff hne]
  simp

/-! ## Any message -/

/-- What a heading must be like for its excerpt to be a phrase, where `rest` follows: the words of a
notice are tidy, and the blanks in the measure of a box are single spaces. -/
def Heading.IsTidy (rest : List Text) : Heading → Prop
  | .box head _ _ => IsPhrase (head.dropWhile (· ≠ '('))
  | .notice source name _ message => IsTidyNotice source name (noticeText name message rest)
  | _ => True

instance {rest : List Text} : (h : Heading) → Decidable (h.IsTidy rest)
  | .box .. => inferInstanceAs (Decidable (IsPhrase _))
  | .notice .. => inferInstanceAs (Decidable (IsTidyNotice _ _ _))
  | .output .. | .fatal .. | .fileLine .. => inferInstanceAs (Decidable True)

section Messages

variable {x : Context} {row : Nat} {line : Text} {rest : List Text} {h : Heading} {d : Diagnostic}

/-- The text of an error is squeezed last. -/
theorem isPhrase_of_errorClaim {indentedOnly : Bool} {origin : Option Text}
    {locate : Option Nat → Location}
    (hd : d ∈ (errorClaim row line rest indentedOnly origin message locate).diagnostic) :
    IsPhrase d.excerpt := by
  cases hd
  exact isPhrase_squeeze _

/-- The excerpt of a message is a phrase exactly if its heading is tidy. If it is none, a space
stands at its end, or it is copied from the line of a box. -/
theorem excerpt_of_claim (hfeed : '\n' ∉ line) (hline : Heading.ofLine? line = some h)
    (hd : d ∈ (claim x row line rest h).diagnostic) :
    (IsPhrase d.excerpt ↔ h.IsTidy rest) ∧ (d.severity = .error → IsPhrase d.excerpt) ∧
      (IsPhrase d.excerpt ∨ (∃ u, IsPhrase u ∧ d.excerpt = u ++ [' ']) ∨
        d.excerpt <+: line ∧ ∃ first last, h = .box d.excerpt first last) := by
  have hkind := Heading.kind_of_ofLine? hline
  cases h with
  | output path => cases hd
  | fatal origin message =>
    cases hhelp : isHelpText message with
    | true => simp [claim, hhelp] at hd
    | false =>
      rw [claim_fatal _ _ _ _ _ hhelp] at hd
      have hphrase := isPhrase_of_errorClaim hd
      exact ⟨iff_of_true hphrase trivial, fun _ => hphrase, .inl hphrase⟩
  | fileLine path n origin message =>
    cases hhelp : isHelpText message with
    | true => simp [claim, hhelp] at hd
    | false =>
      rw [claim_fileLine _ _ _ _ _ _ _ hhelp] at hd
      have hphrase := isPhrase_of_errorClaim hd
      exact ⟨iff_of_true hphrase trivial, fun _ => hphrase, .inl hphrase⟩
  | box head first last =>
    cases hd
    obtain ⟨hcopy, start, hstart, measure, rfl⟩ := exists_of_box? hkind
    refine ⟨isPhrase_boxHead_iff hstart, fun h => ?_, .inr (.inr ⟨hcopy, first, last, rfl⟩)⟩
    cases h
  | notice source name volume message =>
    cases hd
    obtain ⟨hname, -⟩ := (Heading.notice?_eq_some_iff hfeed).mp hkind
    have htext : IsPhrase (noticeText name message rest) := isPhrase_squeeze _
    refine ⟨isPhrase_noticeExcerpt_iff source hname htext, fun h => ?_, ?_⟩
    · cases volume <;> cases h
    · rcases noticeExcerpt_cases source hname htext with ⟨-, h⟩ | ⟨-, h⟩
      · exact .inl h
      · exact .inr (.inl h)

end Messages

/-- **The excerpts of a log.** The excerpt of each diagnostic stands on one line. The excerpts of
errors are phrases. That of any other diagnostic is a phrase exactly if the heading it belongs to is
tidy; if not, it is a phrase with a space at its end, or the head of a box as it stands in the
log. -/
theorem excerpt_isPhrase_iff {root : Path} {log : Text} {d : Diagnostic}
    (hd : d ∈ (read root log).diagnostics) :
    '\n' ∉ d.excerpt ∧ (d.severity = .error → IsPhrase d.excerpt) ∧
      ∃ (row : Nat) (line : Text) (head : Heading),
        (logLines log)[row]? = some line ∧ Heading.ofLine? line = some head ∧
        d.logRange.map (·.start) = some ⟨row, 0⟩ ∧
        (IsPhrase d.excerpt ↔ head.IsTidy ((logLines log).drop (row + 1))) ∧
        (IsPhrase d.excerpt ∨ (∃ u, IsPhrase u ∧ d.excerpt = u ++ [' ']) ∨
          d.excerpt <+: line ∧ ∃ first last, head = .box d.excerpt first last) := by
  obtain ⟨seg, hseg, hd⟩ := List.mem_filterMap.mp ((dropRepeats_sublist ..).mem hd)
  obtain ⟨line, hline, ⟨-, hplain⟩ | ⟨head, s, hhead, hmessage⟩⟩ :=
    (cut_logSegments root log).segment_eq hseg
  · rw [hplain] at hd
    cases hd
  · rw [hmessage] at hd
    have hfeed := not_mem_of_mem_logLines (List.mem_of_getElem? hline)
    obtain ⟨htidy, herror, hcases⟩ := excerpt_of_claim hfeed hhead hd
    have hrange := claim_logRange hd
    refine ⟨?_, herror, seg.row, line, head, hline, hhead, by rw [hrange]; rfl, htidy, hcases⟩
    rcases hcases with hphrase | ⟨u, hu, heq⟩ | ⟨hcopy, -⟩
    · exact hphrase.spaced.not_mem_lineFeed
    · rw [heq, List.mem_append, not_or]
      exact ⟨hu.spaced.not_mem_lineFeed, by decide⟩
    · exact fun hmem => hfeed (hcopy.subset hmem)

/-- Blanks between the words of an error, and a tabulator among them, do no harm. -/
theorem isPhrase_of_wide_error :
    let root := Path.ofString "/doc/main.tex"
    let log := "Banner\n! Undefined   control \t sequence.\nl.3 \\foo\n".toList
    ∃ d ∈ (read root log).diagnostics, d.severity = .error ∧ IsPhrase d.excerpt ∧
      d.excerpt = "Undefined control sequence.".toList := by
  intro root log
  have hfound : ∃ d ∈ (read root log).diagnostics, d.severity = .error ∧
      d.excerpt = "Undefined control sequence.".toList := by decide +kernel
  obtain ⟨d, hd, herror, hexcerpt⟩ := hfound
  obtain ⟨-, hphrase, -⟩ := excerpt_isPhrase_iff hd
  exact ⟨d, hd, herror, hphrase herror, hexcerpt⟩

/-- A note without words leaves the space behind its label, one whose period stands apart the space
in front of that, and a measure keeps its blanks. -/
theorem untidy_excerpts :
    let root := Path.ofString "/doc/main.tex"
    let log := ("Banner\nPackage foo Info: on input line 5.\nLaTeX Warning: Odd .\n" ++
      "Overfull \\hbox (12.0pt  too wide) at line 3\n").toList
    (read root log).diagnostics.map (·.excerpt) =
        ["Package foo: ".toList, "Odd ".toList, "Overfull \\hbox (12.0pt  too wide)".toList] ∧
      ∀ d ∈ (read root log).diagnostics, ¬ IsPhrase d.excerpt := by
  intro root log
  constructor <;> decide +kernel

end Log

end Typeset
