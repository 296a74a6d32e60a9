import Typeset.Path
import Typeset.Registry.Hub

/-!
# Naming documents to the registry

A caller names a document by a text or by a path. The registry takes a text as it is and a path as
it is written.

## Main definitions

* `Registry.Address`: the name that a caller gives a document
* `Registry.Address.key`: the text by which the registry knows it
* `Registry.Call`: the changes that a caller may ask for
-/

namespace Typeset.Registry

/-- The name that a caller gives a document. -/
inductive Address where
  | text (s : String)
  | path (p : Path)
  deriving DecidableEq, Repr

/-- The text by which the registry knows a document. -/
def Address.key : Address → String
  | text s => s
  | path p => p.str

/-- The changes that a caller may ask for, as the caller names the documents. -/
inductive Call where
  | start (document : Address)
  | finish (document : Address) (output : String) (elapsed : Option Seconds)
  | fail (document : Address) (error output : String)
  | reset (document : Option Address)
  | publish (document : Address) (diagnostics : List Diagnostic)
  | dispose
  deriving Repr

/-- The operation that a call leads to. -/
def Call.operation : Call → Operation
  | start a => .start a.key
  | finish a output given => .finish a.key output given
  | fail a error output => .fail a.key error output
  | reset a => .reset (a.map Address.key)
  | publish a ds => .publish a.key ds
  | dispose => .dispose

end Typeset.Registry
