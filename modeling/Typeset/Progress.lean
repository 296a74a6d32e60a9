import Typeset.Data.Value
import Typeset.Decimal.Fixed
import Typeset.Decimal.Parse
import Typeset.Registry.Basic

/-!
# Progress

What a build tells about its progress, and the sentence for it. An event that comes from elsewhere
has a name and a payload; a known name makes it progress, and the entries that are missing or empty
in the payload are filled in.

## Main definitions

* `Progress`: the events of a build
* `Progress.name`, `Progress.payload`: an event as others see it
* `Progress.ofEvent`: the event with a name and a payload
* `Progress.sentence`: an event in words
-/

namespace Typeset

open Data (Value)

/-- The floating-point number nearest to an amount of seconds. -/
def Seconds.toFloat : Seconds → Float
  | .whole n =>
    let x := Decimal.ofScientific n.natAbs 0
    if n < 0 then -x else x
  | .real x => x

/-- Whether an amount of seconds is a whole number beyond the range of floating-point numbers. Such
an amount cannot be shown. -/
def Seconds.isImmense : Seconds → Bool
  | .whole n => (Decimal.ofNat? n.natAbs).isNone
  | .real _ => false

/-- The seconds with two places behind the point. -/
def Seconds.shown (s : Seconds) : String := Decimal.fixed 2 s.toFloat

/-- The seconds as data. -/
def Seconds.record : Seconds → Value
  | .whole n => .int n
  | .real x => .float x

/-- The events of a build. Documents go by their file names. -/
inductive Progress where
  | started (file : String) (command : List String)
  | finished (file : String) (elapsed : Option Seconds)
  | failed (file : String) (error : String)
  | skipped (file : String) (reason : String)
  | interrupted (file : String)
  deriving Repr

namespace Progress

/-- The kinds of events. -/
inductive Kind where
  | started
  | finished
  | failed
  | skipped
  | interrupted
  deriving DecidableEq, Repr

namespace Kind

/-- All kinds. -/
def all : List Kind := [started, finished, failed, skipped, interrupted]

/-- The name under which an event of a kind is announced. -/
def name : Kind → String
  | started => "build_started"
  | finished => "build_finished"
  | failed => "build_failed"
  | skipped => "build_skipped"
  | interrupted => "build_interrupted"

/-- The kind with a name. -/
def ofName? (name : String) : Option Kind := all.find? fun k => k.name = name

end Kind

/-- The kind of an event. -/
def kind : Progress → Kind
  | started .. => .started
  | finished .. => .finished
  | failed .. => .failed
  | skipped .. => .skipped
  | interrupted _ => .interrupted

/-- The name under which an event is announced. -/
def name (p : Progress) : String := p.kind.name

/-- The document that an event is about. -/
def file : Progress → String
  | started f _ => f
  | finished f _ => f
  | failed f _ => f
  | skipped f _ => f
  | interrupted f => f

/-- What comes with the name of an event. -/
def payload : Progress → Value
  | started f c => .record [("file", .text f), ("command", .list (c.map .text))]
  | finished f e =>
    .record [("file", .text f), ("elapsed", (e.map Seconds.record).getD .null)]
  | failed f e => .record [("file", .text f), ("error", .text e)]
  | skipped f r => .record [("file", .text f), ("reason", .text r)]
  | interrupted f => .record [("file", .text f)]

/-- The event in words. -/
def sentence : Progress → String
  | started f c =>
    "Compiling " ++ f ++ if c.isEmpty then "" else " (" ++ " ".intercalate c ++ ")"
  | finished f e =>
    "Compiled " ++ f ++ " successfully" ++ (e.map fun s => " in " ++ s.shown ++ "s").getD ""
  | failed f e => "Compilation of " ++ f ++ " failed (" ++ e ++ ")"
  | skipped f r => "Skipped " ++ f ++ ": " ++ r
  | interrupted f => "Compilation of " ++ f ++ " was interrupted"

/-! ## Events from elsewhere -/

/-- The text of an entry of a payload, or `fallback` if the entry does not count as true. -/
def entryOr (fallback : String) (key : String) (payload : Value) : String :=
  match payload.get? key with
  | some v => if v.isTrue then v.display else fallback
  | none => fallback

/-- The words of a command: the items of a list, the characters of a text, the keys of a mapping.
Other values, and items that are no texts, have no words. -/
def wordsOf? : Value → Option (List String)
  | .text s => some (s.toList.map String.singleton)
  | .list vs => vs.mapM Value.text?
  | .map es => es.mapM fun e => e.1.text?
  | _ => none

/-- The words of the command in a payload; a command that does not count as true has none. -/
def commandOf? (payload : Value) : Option (List String) :=
  match payload.get? "command" with
  | some v => if v.isTrue then wordsOf? v else some []
  | none => some []

/-- The time in a payload, if it is a number; truth values count as one and zero. -/
def elapsedOf (payload : Value) : Option Seconds :=
  match payload.get? "elapsed" with
  | some (.int n) => some (.whole n)
  | some (.float x) => some (.real x)
  | some (.bool b) => some (.whole (if b then 1 else 0))
  | _ => none

/-- Why there is no sentence for an event. -/
inductive Unsayable where
  /-- The payload holds a command that cannot be put into words. -/
  | wordless
  /-- The payload holds a time that cannot be shown. -/
  | immense
  deriving DecidableEq, Repr

/-- The event of a kind with a payload. -/
def ofPayload (payload : Value) : Kind → Except Unsayable Progress
  | .started =>
    match commandOf? payload with
    | some words => .ok (started file words)
    | none => .error .wordless
  | .finished =>
    if (elapsedOf payload).any Seconds.isImmense then .error .immense
    else .ok (finished file (elapsedOf payload))
  | .failed => .ok (failed file (entryOr "unknown error" "error" payload))
  | .skipped => .ok (skipped file (entryOr "already building" "reason" payload))
  | .interrupted => .ok (interrupted file)
where
  /-- The document that the payload names. -/
  file : String := entryOr "<unknown>" "file" payload

/-- What is announced by a name and a payload, if the name is that of an event. -/
def ofEvent (name : String) (payload : Value) : Except Unsayable (Option Progress) :=
  match Kind.ofName? name with
  | none => .ok none
  | some k => (ofPayload payload k).map some

end Progress

end Typeset
