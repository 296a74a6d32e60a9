import Typeset.Events.Hub

/-!
# Channels

A single channel under a name: payloads are emitted on it, and it can be cleared.

## Main definitions

* `Events.Channel.machine`: the operations of a channel
* `Events.Channel.complaint`: the record of a listener that failed
-/

namespace Typeset.Events.Channel

/-- The operations of a channel. -/
inductive Operation (π : Type) where
  | emit (payload : π)
  | clear
  deriving Repr

/-- A channel keeps nothing but its listeners. -/
def machine (π : Type) : Machine Unit (Operation π) Unit π where
  perform
    | .emit payload, _ => ((), [.emit () payload])
    | .clear, _ => ((), [.clear ()])

/-- What is recorded when a listener of a channel fails. -/
def complaint (name : String) : String :=
  "Subscriber of " ++ name ++ " raised while handling an event"

end Typeset.Events.Channel
