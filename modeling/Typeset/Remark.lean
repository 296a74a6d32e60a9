import Typeset.Failure
import Typeset.Progress

/-!
# Remarks

What a build has to say to whoever started it: warnings and errors, each perhaps with the failures
behind it, and its progress. A journal takes remarks down as entries.

## Main definitions

* `Remark`: a warning, an error or progress
* `Journal.Entry`, `Journal.ofRemark`, `Journal.ofEvent`: what a journal takes down
-/

namespace Typeset

open Data (Value)

/-- Whether something is a warning or an error. -/
inductive Alarm where
  | warning
  | error
  deriving DecidableEq, Repr

/-- The word for an alarm. -/
def Alarm.label : Alarm → String
  | warning => "warning"
  | error => "error"

/-- What a build has to say. -/
inductive Remark where
  | alarm (level : Alarm) (message : String) (failures : List Failure)
  | progress (p : Progress)
  deriving Repr

namespace Journal

/-- How much an entry matters. -/
inductive Level where
  | debug
  | info
  | warning
  | error
  deriving DecidableEq, Repr

/-- The word for a level. -/
def Level.label : Level → String
  | debug => "DEBUG"
  | info => "INFO"
  | warning => "WARNING"
  | error => "ERROR"

/-- The level of an alarm. -/
def Level.ofAlarm : Alarm → Level
  | .warning => .warning
  | .error => .error

/-- An entry of a journal. -/
structure Entry where
  level : Level
  text : String
  failure : Option Failure := none
  deriving DecidableEq, Repr

/-- The entry for a remark. -/
def ofRemark : Remark → Entry
  | .alarm level message failures => ⟨.ofAlarm level, message, failures.head?⟩
  | .progress p => ⟨.info, p.sentence, none⟩

/-- The entry for an announcement, if it can be put into words. An unknown event is taken down as
it came. -/
def ofEvent (name : String) (payload : Value) : Except Progress.Unsayable Entry :=
  match Progress.ofEvent name payload with
  | .ok (some p) => .ok (ofRemark (.progress p))
  | .ok none => .ok ⟨.debug, "diagnostic event " ++ name ++ ": " ++ payload.inspect, none⟩
  | .error u => .error u

end Journal

end Typeset
