import Typeset.Proofs.Log.Attribution

/-!
# Balanced traces of files

A log shows a file that is opened by its name behind a bracket, and by a closing bracket that the
file is closed. The marks are looked for from left to right and nothing is known of nesting; still,
where files are opened and closed in a balanced way, however deep, the open files are the same
again afterwards. In between, the files that are open besides are those whose closing bracket has
not come yet. It does not matter over how many lines such a text is laid out, as long as no file
name is broken and no mark is torn from the bracket that ends it.

## Main definitions

* `Log.Opening`, `Log.Visits`, `Log.Trace`: balanced texts
* `Log.Visits.Front`, `Log.Trace.Front`: a part of such a text from its beginning, with the files
  that are open behind it
* `Log.EndsBetweenMarks`: the places of a text that are not inside a mark
* `Log.IsCutAtMarks`: the ways in which a text may be laid out over lines

## Main results

* `Log.FileStack.track_append`, `Log.FileStack.foldl_track`: tracking piece by piece
* `Log.Visits.track_front`: the files that are open behind a part of a balanced text
* `Log.Visits.exists_front`: each place between two marks is such a part
* `Log.balanced_trace`: a balanced trace leaves the open files as they were
-/

namespace Typeset.Log

open Text

/-! ## Tracking piece by piece -/

/-- No mark reaches over the place between the two parts of a text: a bracket stands behind it, or
a closing one in front of it. The ends of a text are such places. -/
def CutsAtMark (front back : Text) : Prop :=
  front = [] ∨ back = [] ∨ back.head?.any isBracket ∨ front.getLast? = some ')'

instance (front back : Text) : Decidable (CutsAtMark front back) :=
  inferInstanceAs (Decidable (_ ∨ _))

/-- A text is cut into these pieces in front of brackets and behind closing ones only. -/
def IsCutAtMarks : List Text → Prop
  | [] => True
  | piece :: pieces => CutsAtMark piece pieces.flatten ∧ IsCutAtMarks pieces

instance : (pieces : List Text) → Decidable (IsCutAtMarks pieces)
  | [] => inferInstanceAs (Decidable True)
  | _ :: pieces =>
    have := instDecidableIsCutAtMarks pieces
    inferInstanceAs (Decidable (_ ∧ _))

theorem pendingToken_none : pendingToken none = [] := rfl

/-- A bracket ends the name in front of it. -/
theorem fileTokensFrom_cons_bracket {c : Char} (hc : isBracket c) (pending : Option Text)
    (back : Text) :
    fileTokensFrom pending (c :: back) =
      pendingToken pending ++ fileTokensFrom none (c :: back) := by
  have hc : c = '(' ∨ c = ')' ∨ c = '[' ∨ c = ']' := by
    simpa [isBracket, or_assoc] using hc
  rcases hc with rfl | rfl | rfl | rfl <;> simp [fileTokensFrom, pendingToken_none]

/-- Whatever stands in front goes on alike with and without the bracket. -/
theorem fileTokensFrom_append_bracket {c : Char} (hc : isBracket c) (pending : Option Text)
    (front back : Text) :
    fileTokensFrom pending (front ++ c :: back) =
      fileTokensFrom pending front ++ fileTokensFrom none (c :: back) := by
  induction front generalizing pending with
  | nil => exact fileTokensFrom_cons_bracket hc pending back
  | cons d front ih =>
    rw [List.cons_append, fileTokensFrom, fileTokensFrom]
    split_ifs <;> simp [ih]

theorem fileTokensFrom_append_closing (pending : Option Text) (front back : Text) :
    fileTokensFrom pending (front ++ ')' :: back) =
      fileTokensFrom pending (front ++ [')']) ++ fileTokensFrom none back := by
  have hclosing : isBracket ')' := rfl
  rw [fileTokensFrom_append_bracket hclosing, fileTokensFrom_append_bracket hclosing]
  simp [fileTokensFrom, pendingToken_none]

/-- The marks of a text are those of its two parts. -/
theorem fileTokens_append {front back : Text} (h : CutsAtMark front back) :
    fileTokens (front ++ back) = fileTokens front ++ fileTokens back := by
  rcases h with rfl | rfl | hhead | hlast
  · rfl
  · have hnil : fileTokens [] = [] := rfl
    rw [List.append_nil, hnil, List.append_nil]
  · cases back with
    | nil => cases hhead
    | cons c back => exact fileTokensFrom_append_bracket hhead none front back
  · obtain ⟨t, rfl⟩ := List.getLast?_eq_some_iff.mp hlast
    rw [List.append_assoc]
    exact fileTokensFrom_append_closing none t back

/-- Characters that are no brackets hold no mark. -/
theorem fileTokens_of_no_bracket {run : Text} (h : ∀ c ∈ run, isBracket c = false) :
    fileTokens run = [] := by
  unfold fileTokens
  induction run with
  | nil => rfl
  | cons c run ih =>
    obtain ⟨hc, hrun⟩ := List.forall_mem_cons.mp h
    have hc : c ≠ '(' ∧ c ≠ ')' ∧ c ≠ '[' ∧ c ≠ ']' := by
      simpa [isBracket, not_or, and_assoc] using hc
    rw [fileTokensFrom, if_neg hc.1, if_neg hc.2.1, if_neg (not_or.mpr hc.2.2), Option.map_none]
    exact ih hrun

namespace FileStack

/-- A text may be tracked in two parts. -/
theorem track_append (s : FileStack) {front back : Text} (h : CutsAtMark front back) :
    s.track (front ++ back) = (s.track front).track back := by
  rw [track, fileTokens_append h, List.foldl_append]
  rfl

/-- A text may be tracked in pieces. -/
theorem foldl_track (s : FileStack) {pieces : List Text} (h : IsCutAtMarks pieces) :
    pieces.foldl track s = s.track pieces.flatten := by
  induction pieces generalizing s with
  | nil => rfl
  | cons piece pieces ih =>
    obtain ⟨hpiece, hpieces⟩ := h
    rw [List.foldl_cons, ih _ hpieces, List.flatten_cons, track_append s hpiece]

theorem track_of_no_bracket (s : FileStack) {run : Text} (h : ∀ c ∈ run, isBracket c = false) :
    s.track run = s := by
  rw [track, fileTokens_of_no_bracket h]
  rfl

@[simp] theorem track_closing (s : FileStack) : s.track [')'] = s.pop := rfl

end FileStack

/-! ## Balanced texts -/

/-- Characters of a log none of which is a bracket. -/
structure Run where
  text : Text
  bracket : text.any isBracket = false := by decide

/-- What stands behind the bracket of a file that is opened: without its padding it holds a dot. -/
structure Opening extends Run where
  dot : '.' ∈ trimName text := by decide

/-- The files that are opened and closed one after another. Each has other files that are opened
and closed inside it, and characters behind its closing bracket. -/
inductive Visits where
  | none
  | visit (name : Opening) (inside : Visits) (behind : Run) (later : Visits)

/-- A text whose files are opened and closed in a balanced way. -/
structure Trace where
  start : Run
  visits : Visits

theorem Run.isBracket_of_mem (run : Run) : ∀ c ∈ run.text, isBracket c = false := fun c hc =>
  Bool.eq_false_iff.mpr (List.any_eq_false.mp run.bracket c hc)

theorem Opening.text_ne_nil (name : Opening) : name.text ≠ [] := by
  intro hnil
  have hdot := name.dot
  rw [hnil] at hdot
  cases hdot

/-- The path of a file that is opened, as the open files resolve it. -/
def FileStack.pathOf (s : FileStack) (name : Opening) : Path := s.resolve (trimName name.text)

/-- The open files with one more. -/
def FileStack.enter (s : FileStack) (name : Opening) : FileStack := s.push (s.pathOf name)

theorem FileStack.track_name (s : FileStack) (name : Opening) :
    s.track ('(' :: name.text) = s.enter name := by
  rw [track, fileTokens_opening name.text_ne_nil name.isBracket_of_mem, List.foldl_cons,
    List.foldl_nil, apply]
  simp only [name.dot, if_true]
  rfl

@[simp] theorem FileStack.pop_enter (s : FileStack) (name : Opening) : (s.enter name).pop = s :=
  pop_push s _

/-- The files that are entered stand behind those that were open, the last one last. The directory
of all names is that of the document, which stays. -/
theorem FileStack.paths_foldl_enter (s : FileStack) (names : List Opening) :
    (names.foldl enter s).paths = s.paths ++ names.map s.pathOf := by
  induction names generalizing s with
  | nil => simp
  | cons name names ih =>
    have hpath : (s.enter name).pathOf = s.pathOf := rfl
    rw [List.foldl_cons, ih, hpath, enter, paths_push]
    simp

namespace Visits

/-- The text of files that are opened and closed. -/
def text : Visits → Text
  | none => []
  | visit name inside behind later =>
    '(' :: name.text ++ (inside.text ++ ')' :: (behind.text ++ later.text))

theorem head?_text (v : Visits) : v.text = [] ∨ v.text.head?.any isBracket := by
  cases v with
  | none => exact .inl rfl
  | visit => exact .inr rfl

theorem cutsAtMark_text (front : Text) (v : Visits) : CutsAtMark front v.text :=
  v.head?_text.elim (fun h => .inr (.inl h)) fun h => .inr (.inr (.inl h))

/-- Behind the name of a file that is opened stands a bracket. -/
theorem head?_text_append (v : Visits) (t : Text) :
    (v.text ++ ')' :: t).head?.any isBracket := by
  cases v <;> rfl

end Visits

/-- The text of a balanced trace. -/
def Trace.text (t : Trace) : Text := t.start.text ++ t.visits.text

/-! ## Parts of balanced texts -/

/-- The text `front` is a part of that of `v` from its beginning that ends between two marks, and
behind it the files `names` are open, the innermost one last. -/
inductive Visits.Front : (v : Visits) → (front : Text) → (names : List Opening) → Prop where
  /-- In front of all files. -/
  | start (v : Visits) : v.Front [] []
  /-- Inside the first file, which is open then. -/
  | inside {name : Opening} {inside : Visits} {behind : Run} {later : Visits} {front : Text}
      {names : List Opening} (h : inside.Front front names) :
      (visit name inside behind later).Front ('(' :: name.text ++ front) (name :: names)
  /-- Behind the first file and its closing bracket. -/
  | behind {name : Opening} {inside : Visits} {behind : Run} {later : Visits} {run : Text}
      (h : run <+: behind.text) :
      (visit name inside behind later).Front ('(' :: name.text ++ (inside.text ++ ')' :: run)) []
  /-- In a later file or behind it. -/
  | later {name : Opening} {inside : Visits} {behind : Run} {later : Visits} {front : Text}
      {names : List Opening} (h : later.Front front names) :
      (visit name inside behind later).Front
        ('(' :: name.text ++ (inside.text ++ ')' :: (behind.text ++ front))) names

/-- The text `front` is a part of that of `t` from its beginning that ends between two marks, and
behind it the files `names` are open, the innermost one last. -/
inductive Trace.Front (t : Trace) : (front : Text) → (names : List Opening) → Prop where
  | start {run : Text} (h : run <+: t.start.text) : t.Front run []
  | visits {front : Text} {names : List Opening} (h : t.visits.Front front names) :
      t.Front (t.start.text ++ front) names

/-- The place between the two parts of a text is not inside a mark: if only characters of a name
stand between it and the opening bracket in front of it, then the name ends there. -/
def EndsBetweenMarks (front back : Text) : Prop :=
  ∀ before name, front = before ++ '(' :: name → (∀ c ∈ name, isBracket c = false) →
    back.head?.any isBracket

theorem EndsBetweenMarks.of_append {before front back : Text}
    (h : EndsBetweenMarks (before ++ front) back) : EndsBetweenMarks front back := by
  rintro before' name rfl hname
  exact h (before ++ before') name (by rw [List.append_assoc]) hname

/-- No place inside a name is between two marks: its rest begins with no bracket. -/
theorem Opening.eq_nil_of_endsBetweenMarks (name : Opening) {part rest after : Text}
    (hname : name.text = part ++ rest) (hends : EndsBetweenMarks ('(' :: part) (rest ++ after)) :
    rest = [] := by
  have hbracket : ∀ c ∈ part ++ rest, isBracket c = false := hname ▸ name.isBracket_of_mem
  have hhead : (rest ++ after).head?.any isBracket :=
    hends [] part rfl fun c hc => hbracket c (List.mem_append_left _ hc)
  cases rest with
  | nil => rfl
  | cons d rest =>
    have hd : isBracket d = false := hbracket d (by simp)
    exact absurd hhead (Bool.eq_false_iff.mp hd)

namespace Visits

theorem Front.isPrefix {v : Visits} {front : Text} {names : List Opening}
    (h : v.Front front names) : front <+: v.text := by
  induction h with
  | start v => exact List.nil_prefix
  | inside _ ih =>
    rw [text, List.prefix_append_right_inj]
    exact ih.trans (List.prefix_append _ _)
  | behind h =>
    rw [text, List.prefix_append_right_inj, List.prefix_append_right_inj, List.prefix_cons_inj]
    exact h.trans (List.prefix_append _ _)
  | later _ ih =>
    rw [text, List.prefix_append_right_inj, List.prefix_append_right_inj, List.prefix_cons_inj,
      List.prefix_append_right_inj]
    exact ih

/-- A part of the text begins with a bracket, if with anything. -/
theorem Front.cutsAtMark {v : Visits} {front : Text} {names : List Opening}
    (h : v.Front front names) {before : Text} : CutsAtMark before front := by
  cases h with
  | start => exact .inr (.inl rfl)
  | _ => exact .inr (.inr (.inl rfl))

/-- Tracking goes through a file that is opened and closed step by step. -/
theorem track_visit {s : FileStack} {name : Opening} {inside : Visits} {behind : Text}
    (hinside : (s.enter name).track inside.text = s.enter name) :
    s.track ('(' :: name.text ++ (inside.text ++ ')' :: behind)) = s.track behind := by
  have hname : CutsAtMark ('(' :: name.text) (inside.text ++ ')' :: behind) :=
    .inr (.inr (.inl (inside.head?_text_append behind)))
  have hclose : CutsAtMark inside.text (')' :: behind) := .inr (.inr (.inl rfl))
  have hbehind : CutsAtMark [')'] behind := .inr (.inr (.inr rfl))
  calc s.track ('(' :: name.text ++ (inside.text ++ ')' :: behind))
      = (s.track ('(' :: name.text)).track (inside.text ++ ')' :: behind) :=
        s.track_append hname
    _ = ((s.enter name).track inside.text).track (')' :: behind) := by
        rw [s.track_name, FileStack.track_append _ hclose]
    _ = ((s.enter name).track [')']).track behind := by
        rw [hinside, ← FileStack.track_append _ hbehind, List.singleton_append]
    _ = s.track behind := by rw [FileStack.track_closing, FileStack.pop_enter]

/-- Files that are opened and closed leave the open files as they were. Those inside a file are
closed before it is. -/
theorem track_text (s : FileStack) (v : Visits) : s.track v.text = s := by
  induction v generalizing s with
  | none => rfl
  | visit name inside behind later hinside hlater =>
    rw [text, track_visit (hinside _), s.track_append (later.cutsAtMark_text _),
      s.track_of_no_bracket behind.isBracket_of_mem, hlater]

/-- Behind a part of the text the files that it does not close are open. -/
theorem track_front {v : Visits} {front : Text} {names : List Opening} (h : v.Front front names)
    (s : FileStack) : s.track front = names.foldl FileStack.enter s := by
  induction h generalizing s with
  | start v => rfl
  | inside h ih => rw [s.track_append h.cutsAtMark, s.track_name, ih, List.foldl_cons]
  | @behind name inside behind later run h =>
    have hrun : ∀ c ∈ run, isBracket c = false := fun c hc =>
      behind.isBracket_of_mem c (h.subset hc)
    rw [track_visit (track_text _ inside), s.track_of_no_bracket hrun, List.foldl_nil]
  | @later name inside behind later front names h ih =>
    rw [track_visit (track_text _ inside), s.track_append h.cutsAtMark,
      s.track_of_no_bracket behind.isBracket_of_mem, ih]

/-- Each place of the text that is not inside a mark ends a part. The place is in the mark of the
first file, inside that file, or behind it. -/
theorem exists_front {v : Visits} {front back after : Text} (h : v.text = front ++ back)
    (hends : EndsBetweenMarks front (back ++ after)) : ∃ names, v.Front front names := by
  induction v generalizing front back after with
  | none =>
    obtain ⟨rfl, -⟩ := List.append_eq_nil_iff.mp h.symm
    exact ⟨[], .start _⟩
  | visit name inside behind later hinside hlater =>
    rcases List.append_eq_append_iff.mp h with ⟨front, rfl, hmark⟩ | ⟨rest, hmark, rfl⟩
    · rcases List.append_eq_append_iff.mp hmark with ⟨front, rfl, hclose⟩ | ⟨rest, hinner, rfl⟩
      · cases front with
        | nil =>
          rw [List.append_nil] at hends
          obtain ⟨names, hfront⟩ := hinside (List.append_nil inside.text).symm hends.of_append
          exact ⟨name :: names, by simpa using hfront.inside⟩
        | cons c front =>
          obtain ⟨rfl, hbehind⟩ := List.cons.inj hclose
          rcases List.append_eq_append_iff.mp hbehind with ⟨front, rfl, htext⟩ | ⟨rest, hrun, -⟩
          · have hsplit : '(' :: name.text ++ (inside.text ++ ')' :: (behind.text ++ front)) =
                ('(' :: name.text ++ (inside.text ++ ')' :: behind.text)) ++ front := by simp
            rw [hsplit] at hends
            obtain ⟨names, hfront⟩ := hlater htext hends.of_append
            exact ⟨names, hfront.later⟩
          · exact ⟨[], .behind ⟨rest, hrun.symm⟩⟩
      · rw [List.append_assoc] at hends
        obtain ⟨names, hfront⟩ := hinside hinner hends.of_append
        exact ⟨name :: names, hfront.inside⟩
    · cases front with
      | nil => exact ⟨[], .start _⟩
      | cons c part =>
        obtain ⟨rfl, hname⟩ := List.cons.inj hmark
        change name.text = part ++ rest at hname
        rw [List.append_assoc] at hends
        obtain rfl : rest = [] := name.eq_nil_of_endsBetweenMarks hname hends
        rw [List.append_nil] at hname
        rw [← hname, ← List.append_nil ('(' :: name.text)]
        exact ⟨[name], (Front.start inside).inside⟩

end Visits

/-! ## Balanced traces -/

namespace Trace

variable {t : Trace} {front : Text} {names : List Opening}

theorem track_text (s : FileStack) (t : Trace) : s.track t.text = s := by
  rw [text, s.track_append (t.visits.cutsAtMark_text _),
    s.track_of_no_bracket t.start.isBracket_of_mem, t.visits.track_text]

theorem track_front (h : t.Front front names) (s : FileStack) :
    s.track front = names.foldl FileStack.enter s := by
  cases h with
  | start h => exact s.track_of_no_bracket fun c hc => t.start.isBracket_of_mem c (h.subset hc)
  | visits h =>
    rw [s.track_append h.cutsAtMark, s.track_of_no_bracket t.start.isBracket_of_mem,
      Visits.track_front h]

theorem Front.isPrefix (h : t.Front front names) : front <+: t.text := by
  cases h with
  | start h => exact h.trans (List.prefix_append _ _)
  | visits h => exact (List.prefix_append_right_inj _).mpr h.isPrefix

theorem exists_front {back : Text} (h : t.text = front ++ back)
    (hends : EndsBetweenMarks front back) : ∃ names, t.Front front names := by
  rcases List.append_eq_append_iff.mp h with ⟨front, rfl, hvisits⟩ | ⟨rest, hrun, -⟩
  · rw [← List.append_nil back] at hends
    obtain ⟨names, hfront⟩ := Visits.exists_front hvisits hends.of_append
    exact ⟨names, .visits hfront⟩
  · exact ⟨[], .start ⟨rest, hrun.symm⟩⟩

end Trace

/-- **A balanced trace leaves the open files as they were.** Let `s` be any open files. Tracking the
text of a balanced trace gives `s` again, and so does tracking it in pieces, if it is cut in front
of brackets and behind closing ones only. Behind each part of the text that ends between two marks
those files are open besides, the innermost one last, whose closing bracket is still to come; this
too holds however the part is cut into pieces. Each place of the text that is not inside a mark
ends such a part. -/
theorem balanced_trace (t : Trace) (s : FileStack) :
    s.track t.text = s ∧
      (∀ pieces, IsCutAtMarks pieces → pieces.flatten = t.text →
        pieces.foldl FileStack.track s = s) ∧
      (∀ front names, t.Front front names → front <+: t.text ∧
        ∀ pieces, IsCutAtMarks pieces → pieces.flatten = front →
          (pieces.foldl FileStack.track s).paths = s.paths ++ names.map s.pathOf) ∧
      ∀ front back, t.text = front ++ back → EndsBetweenMarks front back →
        ∃ names, t.Front front names := by
  refine ⟨t.track_text s, ?_, ?_, fun front back => Trace.exists_front⟩
  · intro pieces hcut hflatten
    rw [s.foldl_track hcut, hflatten, t.track_text]
  · intro front names hfront
    refine ⟨hfront.isPrefix, ?_⟩
    intro pieces hcut hflatten
    rw [s.foldl_track hcut, hflatten, Trace.track_front hfront, s.paths_foldl_enter]

/-- Two files that are opened inside another, laid out over three lines, and the place inside the
first of them. -/
theorem balanced_trace_of_chapters :
    let book : Opening := { text := "./book.tex ".toList }
    let chapter : Opening := { text := "\"ch/one.tex\"".toList }
    let style : Opening := { text := "a.sty\n".toList }
    let t : Trace := ⟨{ text := "Start ".toList },
      .visit book
        (.visit chapter .none { text := " 1 ".toList } (.visit style .none { text := [] } .none))
        { text := " end".toList } .none⟩
    let s : FileStack := ⟨Path.ofString "/doc/main.tex", [Path.ofString "/doc/frame.tex"]⟩
    let lines :=
      ["Start (./book.tex ".toList, "(\"ch/one.tex\") 1 ".toList, "(a.sty\n)) end".toList]
    let front := ["Start (./book.tex ".toList, "(\"ch/one.tex\"".toList]
    let back := ") 1 (a.sty\n)) end".toList
    (IsCutAtMarks lines ∧ lines.flatten = t.text ∧ IsCutAtMarks front ∧
        t.Front front.flatten [book, chapter] ∧ t.text = front.flatten ++ back ∧
        EndsBetweenMarks front.flatten back) ∧
      lines.foldl FileStack.track s = s ∧
      (front.foldl FileStack.track s).paths = [Path.ofString "/doc/main.tex",
        Path.ofString "/doc/frame.tex", Path.ofString "/doc/book.tex",
        Path.ofString "/doc/ch/one.tex"] ∧
      ∃ names, t.Front front.flatten names := by
  intro book chapter style t s lines front back
  have hlines : IsCutAtMarks lines ∧ lines.flatten = t.text := by decide
  have hpieces : IsCutAtMarks front := by decide
  have hfront : t.Front front.flatten [book, chapter] := .visits (.inside (.inside (.start _)))
  have htext : t.text = front.flatten ++ back := by decide
  have hends : EndsBetweenMarks front.flatten back := fun _ _ _ _ => rfl
  obtain ⟨-, hwhole, hpart, hplace⟩ := balanced_trace t s
  refine ⟨⟨hlines.1, hlines.2, hpieces, hfront, htext, hends⟩, hwhole lines hlines.1 hlines.2, ?_,
    hplace _ _ htext hends⟩
  rw [(hpart _ _ hfront).2 front hpieces rfl]
  decide

end Typeset.Log
