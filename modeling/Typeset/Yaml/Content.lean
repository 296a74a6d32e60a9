import Typeset.Text.Utf8

/-!
# What scalars say

A scalar holds a text. Escapes may also name halves of surrogate pairs, which are code points but no
characters; a scalar with one of them holds code points that make up no text.

## Main definitions

* `Yaml.Content`: a text, or code points that make up none
* `Yaml.Content.ofCodes`: what code points hold
* `Yaml.Content.shown`: a text in any case
-/

namespace Typeset.Yaml

/-- What a scalar says. -/
inductive Content where
  | text (t : Text)
  /-- Code points, some of which are halves of surrogate pairs. -/
  | codes (ns : List Nat)
  deriving DecidableEq, Repr

namespace Content

/-- The character with a code point; a half of a surrogate pair cannot be shown. -/
def charOf (n : Nat) : Char := if n.isValidChar then Char.ofNat n else Text.Utf8.replacement

/-- What code points hold. -/
def ofCodes (ns : List Nat) : Content :=
  if ns.all fun n => n.isValidChar then .text (ns.map charOf) else .codes ns

/-- The text, with a replacement for each half of a surrogate pair. -/
def shown : Content → Text
  | text t => t
  | codes ns => ns.map charOf

/-- The code points. -/
def codePoints : Content → List Nat
  | text t => t.map Char.toNat
  | codes ns => ns

end Content

end Typeset.Yaml
