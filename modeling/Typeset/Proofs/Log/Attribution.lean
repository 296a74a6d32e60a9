import Typeset.Proofs.Log.Boundary
import Typeset.Proofs.Log.Form

/-!
# The file that a diagnostic is about

The stack of open files changes at the lines that begin no message and nowhere else. So where a
message begins, the files that the lines above it opened and that no line closed are open, and a
message that names no file is about the innermost of them. A message that names a file is about
that file as seen from the directory of the document, where the stack looks for files too.

## Main definitions

* `Log.FileStack.paths`: the open files, as a list that has the document first
* `Log.FileStack.Step`, `Log.FileStack.run`: what can happen to the open files
* `Log.plainLines`: the lines that begin no message
* `Log.Heading.subject`: the file that a message is about

## Main results

* `Log.FileStack.paths_push`: a file is opened at the end of the list
* `Log.FileStack.bottom_run`: whatever happens, the document stays below all other files
* `Log.FileStack.track_opening`: a file name in brackets opens the file of that name
* `Log.Cut.cut_append`: the files that are open at a segment
* `Log.attribution`: the file of each diagnostic of a log
-/

namespace Typeset.Log

open Text

/-! ## The open files as a list -/

namespace FileStack

/-- The open files, from the document to the innermost one. -/
def paths (s : FileStack) : List Path := s.bottom :: s.opened.reverse

@[simp] theorem length_paths (s : FileStack) : s.paths.length = s.depth := by
  simp [paths, depth]

@[simp] theorem head?_paths (s : FileStack) : s.paths.head? = some s.bottom := rfl

theorem getLast?_paths (s : FileStack) : s.paths.getLast? = some s.current := by
  simp [paths, current, List.getLast?_cons]

theorem paths_push (s : FileStack) (p : Path) : (s.push p).paths = s.paths ++ [p] := by
  simp [paths, push]

/-- What can happen to the open files: a line is tracked, a file is opened, or the innermost one is
closed. -/
inductive Step where
  | track (line : Text)
  | push (p : Path)
  | pop
  deriving DecidableEq, Repr

/-- The open files after a step. -/
def step (s : FileStack) : Step → FileStack
  | .track line => s.track line
  | .push p => s.push p
  | .pop => s.pop

/-- The open files after several steps. -/
def run (s : FileStack) (steps : List Step) : FileStack := steps.foldl step s

@[simp] theorem bottom_step (s : FileStack) (t : Step) : (s.step t).bottom = s.bottom := by
  cases t with
  | track line => exact bottom_track s line
  | push p => rfl
  | pop => rfl

@[simp] theorem bottom_run (s : FileStack) (steps : List Step) :
    (s.run steps).bottom = s.bottom := by
  induction steps generalizing s with
  | nil => rfl
  | cons t steps ih => exact (ih (s.step t)).trans (bottom_step s t)

@[simp] theorem bottom_foldl_apply (s : FileStack) (marks : List FileToken) :
    (marks.foldl apply s).bottom = s.bottom := by
  induction marks generalizing s with
  | nil => rfl
  | cons k marks ih => exact (ih (s.apply k)).trans (bottom_apply s k)

end FileStack

/-! ## File names in brackets -/

/-- Whether a character ends a file name: a round or a square bracket. -/
def isBracket (c : Char) : Bool := c = '(' || c = ')' || c = '[' || c = ']'

theorem fileTokensFrom_of_no_bracket {name : Text} (h : ∀ c ∈ name, isBracket c = false)
    (pending : Text) :
    fileTokensFrom (some pending) name = pendingToken (some (name.reverse ++ pending)) := by
  induction name generalizing pending with
  | nil => rfl
  | cons c name ih =>
    obtain ⟨hc, hname⟩ := List.forall_mem_cons.mp h
    have hc : c ≠ '(' ∧ c ≠ ')' ∧ c ≠ '[' ∧ c ≠ ']' := by
      simpa [isBracket, not_or, and_assoc] using hc
    rw [fileTokensFrom, if_neg hc.1, if_neg hc.2.1, if_neg (not_or.mpr hc.2.2)]
    simpa using ih hname (c :: pending)

theorem fileTokens_opening {name : Text} (hne : name ≠ [])
    (h : ∀ c ∈ name, isBracket c = false) : fileTokens ('(' :: name) = [.opening name] := by
  have hrun := fileTokensFrom_of_no_bracket h []
  rw [List.append_nil] at hrun
  rw [fileTokens, fileTokensFrom, if_pos rfl, hrun]
  cases hname : name.reverse with
  | nil => exact absurd (List.reverse_eq_nil_iff.mp hname) hne
  | cons c t =>
    rw [pendingToken, ← hname, List.reverse_reverse]
    rfl

/-- A name without brackets, quotes and blanks around it. -/
structure IsPlainName (name : Text) : Prop where
  bracket : ∀ c ∈ name, isBracket c = false
  quote : '"' ∉ name
  start : ∀ c ∈ name.head?, isBlank c = false
  stop : ∀ c ∈ name.getLast?, isBlank c = false

theorem IsPlainName.trimName {name : Text} (h : IsPlainName name) : trimName name = name := by
  have hpadding {c : Char} (hc : c ∈ name) (hb : isBlank c = false) : isPadding c = false := by
    have hquote : c ≠ '"' := fun heq => h.quote (heq ▸ hc)
    simp [isPadding, hb, hquote]
  have hstart : ∀ c ∈ name.head?, isPadding c = false := fun c hc =>
    hpadding (List.mem_of_mem_head? hc) (h.start c hc)
  have hstop : ∀ c ∈ name.getLast?, isPadding c = false := fun c hc =>
    hpadding (List.mem_of_mem_getLast? hc) (h.stop c hc)
  rw [Log.trimName, dropWhile_of_head? hstart, dropEnd_of_getLast? hstop]

/-- A file name in brackets opens the file of that name. -/
theorem FileStack.track_opening (s : FileStack) {name : Text} (h : IsPlainName name)
    (hdot : '.' ∈ name) :
    s.track ('(' :: name) = s.push (s.bottom.parent.resolve (.ofText name)) := by
  rw [track, fileTokens_opening (List.ne_nil_of_mem hdot) h.bracket, List.foldl_cons,
    List.foldl_nil, apply]
  simp only [h.trimName, hdot, if_true]
  rfl

/-! ## The files that are open at a segment -/

/-- The line of a segment that begins no message. -/
def Segment.plainLine? : Segment → Option Text
  | .plain _ line => some line
  | .message _ _ => none

/-- The lines of the segments that begin no message. -/
def plainLines (segs : List Segment) : List Text := segs.filterMap Segment.plainLine?

theorem filesAfter_eq (s : FileStack) (segs : List Segment) :
    filesAfter s segs = s.run ((plainLines segs).map .track) := by
  induction segs generalizing s with
  | nil => rfl
  | cons seg segs ih =>
    cases seg with
    | plain i line => exact ih (s.track line)
    | message i c => exact ih s

/-- Behind some segments the cut goes on with the files that are open then. -/
theorem Cut.cut_append {root : Path} {lines : List Text} {s : FileStack} {i : Nat}
    {before after : List Segment} (h : Cut root lines s i (before ++ after)) :
    ∃ j, Cut root lines (filesAfter s before) j after := by
  induction before generalizing s i with
  | nil => exact ⟨i, h⟩
  | cons seg before ih =>
    cases h with
    | plain _ _ rest => exact ih rest
    | message _ _ _ _ _ _ rest => exact ih rest

/-- The file that a message is about: the one that it names, as seen from the directory of the
document, or else the innermost open one. -/
def Heading.subject (x : Context) : Heading → Path
  | .fileLine path _ _ _ => x.root.parent.resolve (.ofText path)
  | _ => x.files.current

theorem claim_location {x : Context} {row : Nat} {line : Text} {rest : List Text} {h : Heading}
    {d : Diagnostic} (hd : d ∈ (claim x row line rest h).diagnostic) :
    d.location = .ofPath (h.subject x) d.location.span := by
  cases h with
  | output path => cases hd
  | fatal origin message =>
    cases hm : isHelpText message with
    | true => simp [claim, hm] at hd
    | false =>
      rw [claim_fatal _ _ _ _ _ hm] at hd
      cases hd
      rfl
  | fileLine path n origin message =>
    cases hm : isHelpText message with
    | true => simp [claim, hm] at hd
    | false =>
      rw [claim_fileLine _ _ _ _ _ _ _ hm] at hd
      cases hd
      rfl
  | box head first last =>
    cases hd
    rfl
  | notice source name volume message =>
    cases hd
    rfl

/-- The segments of a log are cut with the files that the lines above left open. -/
theorem cut_of_logSegments_eq {root : Path} {log : Text} {before after : List Segment}
    (h : logSegments root log = before ++ after) :
    ∃ j, Cut root (logLines log)
      (FileStack.run ⟨root, []⟩ ((plainLines before).map .track)) j after := by
  rw [← filesAfter_eq]
  exact (h ▸ cut_logSegments root log).cut_append

/-- **Each diagnostic is about the file that its message names, or about the innermost open one.**
Let `root` be the document. Whatever happens to the open files, and behind any of the marks of a
line too, the document is open below all others. Where a segment begins, those files are open that
the lines above it left open which begin no message; a message does not change them. So a message
without a file of its own is about the innermost of these. A message that names a file is about the
one that its name in brackets would open. -/
theorem attribution (cwd document : Path) (log : Text) :
    let root := absolute cwd document
    let start : FileStack := ⟨root, []⟩
    (∀ (steps : List FileStack.Step) (marks : List FileToken),
        let files := marks.foldl FileStack.apply (start.run steps)
        1 ≤ files.paths.length ∧ files.paths.head? = some root ∧
          files.paths.getLast? = some files.current) ∧
      ∀ before seg after, logSegments root log = before ++ seg :: after →
        let files := start.run ((plainLines before).map .track)
        ∃ line, (logLines log)[seg.row]? = some line ∧
          (Heading.ofLine? line = none ∧ seg = .plain seg.row line ∧
              seg.files files = files.track line ∨
            ∃ head, Heading.ofLine? line = some head ∧ seg.files files = files ∧
              seg = .message seg.row
                (claim ⟨root, files⟩ seg.row line ((logLines log).drop (seg.row + 1)) head) ∧
              (∀ d ∈ seg.diagnostic?,
                d.location = .ofPath (head.subject ⟨root, files⟩) d.location.span) ∧
              ∀ path n origin message, head = .fileLine path n origin message →
                IsPlainName path → files.track ('(' :: path) =
                  files.push (head.subject ⟨root, files⟩)) := by
  intro root start
  refine ⟨?_, ?_⟩
  · intro steps marks files
    have hbottom : files.bottom = root := by
      rw [FileStack.bottom_foldl_apply, FileStack.bottom_run]
    exact ⟨by simp [files.depth_pos], by rw [FileStack.head?_paths, hbottom],
      files.getLast?_paths⟩
  · intro before seg after hsegs files
    obtain ⟨j, hcut⟩ := cut_of_logSegments_eq hsegs
    cases hcut with
    | plain hl hk rest =>
      exact ⟨_, hl, .inl ⟨List.findSome?_eq_none_iff.mpr hk, rfl, rfl⟩⟩
    | message hl hk hb hh hc hn rest =>
      subst hc
      refine ⟨_, hl, .inr ⟨_, List.findSome?_eq_some_iff.mpr ⟨_, _, _, hk, hh, hb⟩, rfl, rfl,
        fun d hd => claim_location hd, ?_⟩⟩
      rintro path n origin message rfl hplain
      have hsome : Heading.ofLine? _ = some _ :=
        List.findSome?_eq_some_iff.mpr ⟨_, _, _, hk, hh, hb⟩
      obtain ⟨base, -, rfl⟩ := Heading.eq_append_of_fileLine (Heading.fileLine?_of_ofLine? hsome)
      have hdot : '.' ∈ base ++ ".tex".toList := by simp
      rw [FileStack.track_opening files hplain hdot, FileStack.bottom_run]
      rfl

end Typeset.Log
