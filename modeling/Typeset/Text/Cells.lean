import Typeset.Text.Basic
import Typeset.Text.Cells.Ranges

/-!
# Cells

The room that texts take on a terminal: nothing for controls and combining marks, two cells for wide
characters, and one cell for all others. Two characters act on their neighbours. A joiner puts the
character behind it on top of the one before it, so that both take the room of the first. A picture
selector makes a picture of the sign before it, which then takes two cells.

What shares its room cannot be taken apart: a text is a row of clusters, and it is cut between them.

## Main definitions

* `Text.cells`, `Text.cellCount`: the number of cells of a character and of a text
* `Text.Cluster`, `Text.clusters`: what a text is made of
* `Text.fitting`: the clusters that fit in some room
-/

namespace Typeset

namespace Text

/-- The number of cells of a character. -/
def cells (c : Char) : Nat :=
  let n := c.toNat
  if 0x20 ≤ n && n < 0x7F then 1
  else if inRanges n emptyRanges then 0
  else if inRanges n wideRanges then 2
  else 1

/-- The character that puts the next one on top of the one before it. -/
def joiner : Char := '\u200d'

/-- The character that makes a picture of the sign before it. -/
def selector : Char := '\ufe0f'

/-- Whether a sign grows when it becomes a picture. -/
def growsAsPicture (c : Char) : Bool := inRanges c.toNat pictureRanges

/-- The cells by which the sign before a selector grows; there may be none. -/
def growth (sign : Option Char) : Nat := if sign.any growsAsPicture then 1 else 0

/-- The number of cells of a text behind `sign`, the last character that took room and is no picture
yet. -/
def cellCountFrom : (sign : Option Char) → Text → Nat
  | _, [] => 0
  | sign, c :: t =>
    if c = joiner then
      match t with
      | [] => 0
      | _ :: t => cellCountFrom sign t
    else if c = selector then growth sign + cellCountFrom none t
    else if cells c = 0 then cellCountFrom sign t
    else cells c + cellCountFrom (some c) t

/-- The number of cells of a text. -/
def cellCount (t : Text) : Nat := cellCountFrom none t

/-! ## Clusters -/

/-- Characters that share their room, and the number of its cells. -/
structure Cluster where
  text : Text
  cells : Nat
  deriving DecidableEq, Repr

/-- The cluster with another text behind its own, in the same room. -/
def Cluster.append (c : Cluster) (t : Text) : Cluster := { c with text := c.text ++ t }

/-- The clusters of a text of which the beginning, `first`, is read; `sign` is the last character
that took room and is no picture yet. -/
def clustersFrom : (sign : Option Char) → (first : Cluster) → Text → List Cluster
  | _, first, [] => [first]
  | sign, first, c :: t =>
    if c = joiner then
      match t with
      | [] => [first.append [c]]
      | d :: t => clustersFrom sign (first.append [c, d]) t
    else if c = selector then
      let grown := { first.append [c] with cells := first.cells + growth sign }
      clustersFrom (if growth sign = 0 then sign else none) grown t
    else if cells c = 0 then clustersFrom sign (first.append [c]) t
    else first :: clustersFrom (some c) ⟨[c], cells c⟩ t

/-- The clusters of a text. A character that takes no room belongs to the cluster before it; only at
the beginning of a text it stands alone. -/
def clusters : Text → List Cluster
  | [] => []
  | c :: t => clustersFrom (if cells c = 0 then none else some c) ⟨[c], cells c⟩ t

/-- The cells of some clusters together. -/
def total (cs : List Cluster) : Nat := cs.foldr (fun c n => c.cells + n) 0

/-- Spaces. -/
def spaces (n : Nat) : Text := List.replicate n ' '

/-- The first clusters that fit in some room. Where only a part of a cluster fits, there are spaces
in its place. -/
def fitting : (room : Nat) → List Cluster → List Cluster
  | 0, _ => []
  | _, [] => []
  | room, c :: cs =>
    if c.cells ≤ room then c :: fitting (room - c.cells) cs else [⟨spaces room, room⟩]

/-- The first cells of a text. -/
def takeCells (room : Nat) (t : Text) : Text := (fitting room (clusters t)).flatMap Cluster.text

end Text

end Typeset
