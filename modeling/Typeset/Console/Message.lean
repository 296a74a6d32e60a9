import Typeset.Console.Emoji
import Typeset.Console.Output
import Typeset.Remark

/-!
# Messages on the console

An alarm is shown with its level in front. The more verbose the console, the more it tells of the
failures behind an alarm: from the first step on the text and the kind of the failure, from the
second the failures behind it, from the third the failure written down in full.

## Main definitions

* `Console.alarmText`: an alarm with its failures
* `Console.showRemark`: a remark on the console
-/

namespace Typeset.Console

/-- The text of a failure, unless it is blank or the message holds it already. -/
def detail? (message : Text) (f : Failure) : Option Text :=
  let t := Text.trim f.text.toList
  if t.isEmpty || Text.occursIn t message then none else some t

/-- The failures behind the first one of a list, under a heading if there are any. -/
def causes (fs : List Failure) : List Text :=
  match Failure.chain fs with
  | [] => []
  | chain => Text.ofString "caused by:" :: chain.map fun f => Text.ofString ("  " ++ f.entry)

/-- What is told of the failures behind an alarm. -/
def details (verbosity : Nat) (message : Text) : List Failure → List Text
  | [] => []
  | f :: fs =>
    if verbosity = 0 then []
    else
      (detail? message f).toList ++ [Text.ofString ("type: " ++ f.kind)]
        ++ (if 2 ≤ verbosity then causes (f :: fs) else [])
        ++ (if 3 ≤ verbosity then [Text.ofString ("repr: " ++ f.inspect)] else [])

/-- An alarm with its failures. -/
def alarmText (verbosity : Nat) (level : Alarm) (message : String) (fs : List Failure) : Text :=
  let head := Text.ofString (level.label ++ ": " ++ message)
  Text.joinWith ['\n'] (head :: details verbosity message.toList fs)

/-- An alarm on the console. -/
def showAlarm (verbosity : Nat) (level : Alarm) (message : String) (fs : List Failure) : Output :=
  .remark (alarmText verbosity level message fs)

/-- A remark on the console. A quiet console leaves progress out; sentences on progress may name
pictures. -/
def showRemark (verbosity : Nat) (quiet : Bool) : Remark → Output
  | .alarm level message fs => showAlarm verbosity level message fs
  | .progress p =>
    if quiet then {} else .remark (Emoji.substitute (Text.ofString p.sentence))

end Typeset.Console
