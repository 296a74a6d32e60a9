import Typeset.Files
import Typeset.Text.Blank
import Typeset.Text.Quoted

/-!
# Failures

A failure has a kind and says what went wrong. It may name another failure as its cause or as its
context; the links may run in circles. Failures that belong together stand in one list, and links
are places in it.

## Main definitions

* `Failure`: a failure with its links
* `Failure.text`, `Failure.inspect`: what a failure says, and how it is written down in full
* `Failure.trail`: the failures met on the way along the links
* `Failure.messages`, `Failure.hint?`, `Failure.chain`: what is told about them

## Main results

* `Failure.trailWithin_nodup`: no failure is met twice
-/

namespace Typeset

/-- What a failure says. -/
inductive Complaint where
  | nothing
  | message (text : String)
  /-- An operation on a file that was refused. -/
  | file (error : FileError) (name : String)
  deriving DecidableEq, Repr

/-- A failure. Its links are places in the list of failures to which it belongs. -/
structure Failure where
  kind : String
  complaint : Complaint := .nothing
  cause : Option Nat := none
  context : Option Nat := none
  deriving DecidableEq, Repr

namespace Failure

/-- What the failure says. -/
def text (f : Failure) : String :=
  match f.complaint with
  | .nothing => ""
  | .message t => t
  | .file e name =>
    "[Errno " ++ toString e.code ++ "] " ++ e.reason ++ ": " ++ Text.str (Text.quote name.toList)

/-- The kind and what the failure was made of. -/
def inspect (f : Failure) : String :=
  let parts :=
    match f.complaint with
    | .nothing => ""
    | .message t => Text.str (Text.quote t.toList)
    | .file e _ => toString e.code ++ ", " ++ Text.str (Text.quote e.reason.toList)
  f.kind ++ "(" ++ parts ++ ")"

/-- The kind and the text. -/
def entry (f : Failure) : String := f.kind ++ ": " ++ f.text

/-- A refused operation on a file. -/
def ofFile (e : FileError) (name : String) : Failure := ⟨e.kind, .file e name, none, none⟩

/-- The failures of a list of which each is the cause of the one before it. -/
def linked : (first : Nat) → List Failure → List Failure
  | _, [] => []
  | _, [f] => [f]
  | first, f :: fs => { f with cause := some (first + 1) } :: linked (first + 1) fs

/-- The place of the failure behind this one: its cause, or else its context. -/
def behind (f : Failure) : Option Nat := f.cause <|> f.context

/-- The places met from a starting place on along the links, none of them twice and none of those in
`seen`; `fuel` bounds their number. -/
def trailWithin (fs : List Failure) : (fuel : Nat) → (seen : List Nat) → Option Nat → List Nat
  | 0, _, _ => []
  | _ + 1, _, none => []
  | fuel + 1, seen, some i =>
    if i ∈ seen then []
    else
      match fs[i]? with
      | none => []
      | some f => i :: trailWithin fs fuel (i :: seen) f.behind

/-- The failures met from a starting place on along the links. Each is met once, so their number
is a bound for the length of the way. -/
def trail (fs : List Failure) (start : Option Nat) : List Failure :=
  (trailWithin fs fs.length [] start).filterMap fun i => fs[i]?

/-- The first line of the text, without the blanks around it; nothing if the text is blank. -/
def firstLine (f : Failure) : Option Text :=
  match Text.splitLines (Text.trim f.text.toList) with
  | [] => none
  | line :: _ => if (Text.trim line).isEmpty then none else some (Text.trim line)

/-- The first lines of the first failure of the list and of all behind it. -/
def messages (fs : List Failure) : List Text := (trail fs (some 0)).filterMap firstLine

/-- The message that says most: the last one. -/
def hint? (fs : List Failure) : Option Text := (messages fs).getLast?

/-- The failures behind the first one of the list; it is among them if the links lead back to it. -/
def chain (fs : List Failure) : List Failure := trail fs (fs.head?.bind behind)

theorem trailWithin_nodup (fs : List Failure) (fuel : Nat) (seen : List Nat) (start : Option Nat) :
    (trailWithin fs fuel seen start).Nodup ∧ ∀ i ∈ trailWithin fs fuel seen start, i ∉ seen := by
  induction fuel generalizing seen start with
  | zero => simp [trailWithin]
  | succ fuel ih =>
    cases start with
    | none => simp [trailWithin]
    | some i =>
      unfold trailWithin
      split
      · simp
      · next hi =>
        cases hf : fs[i]? with
        | none => simp
        | some f =>
          have h := ih (i :: seen) f.behind
          refine ⟨List.nodup_cons.2 ⟨fun hm => h.2 i hm (by simp), h.1⟩, fun j hj => ?_⟩
          rcases List.mem_cons.1 hj with rfl | hj
          · exact hi
          · exact fun hs => h.2 j hj (List.mem_cons_of_mem _ hs)

end Failure

end Typeset
