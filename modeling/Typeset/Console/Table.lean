import Typeset.Console.Output
import Typeset.Decimal.Fixed
import Typeset.Text.Wrap

/-!
# Tables

Tables drawn with box characters. Each column is as wide as its widest text if there is room for
that; otherwise the widest of the columns whose texts may be broken give way first, and only then
all columns.

## Main definitions

* `Console.Table`: headings and rows
* `Console.Table.widths`: the widths of the columns in the room that there is
* `Console.Table.lines`: the drawing
* `Console.panel`: a box with a title around a table
-/

namespace Typeset.Console

/-- A column of a table. -/
structure Column where
  heading : Text := []
  /-- Whether a text may be broken over several lines. -/
  breakable : Bool := true
  alignment : Text.Alignment := .left
  deriving DecidableEq, Repr

/-- A table. -/
structure Table where
  title : Option Text := none
  columns : List Column
  /-- Whether the headings are shown. -/
  headed : Bool := true
  rows : List (List Text) := []
  deriving DecidableEq, Repr

/-- A text without the controls that a console leaves out. -/
def visible (t : Text) : Text := t.filter fun c => !isDropped c

/-- The cells of the widest line of a text. -/
def textWidth (t : Text) : Nat := ((Text.splitLines t).map Text.cellCount).foldl max 0

/-- The spaces on both sides of a text in its column. -/
def padding : Nat := 2

/-- The total of some widths. -/
def total (widths : List Nat) : Nat := widths.foldl (· + ·) 0

/-! ## Making room -/

/-- A column that has to give way: its width, and by how much it may be narrowed. A column that may
not be narrowed at all has no share in what is to be gained. -/
abbrev Give := Nat × Nat

/-- The widths once `excess` cells are gained from the columns in equal shares, as far as each may
be narrowed; `sharers` is the number of columns left that have a share. What one column cannot give
is left to the columns behind it. -/
def narrow : (excess sharers : Nat) → List Give → List Nat
  | _, _, [] => []
  | excess, sharers, (width, most) :: gs =>
    if most = 0 ∨ sharers = 0 then width :: narrow excess sharers gs
    else
      let gained := min most (Decimal.roundDiv excess sharers)
      (width - gained) :: narrow (excess - gained) (sharers - 1) gs

/-- The number of columns that have a share. -/
def sharers (gs : List Give) : Nat := gs.countP fun g => g.2 ≠ 0

/-- The widths of columns once the widest of those that may be broken are narrowed to the next
widest, as long as there is too little room; `fuel` bounds the number of rounds. Widths come with
whether their columns may be broken. Nothing changes if there is room, or if nothing that may be
broken is left to narrow. -/
def narrowWidest (room : Nat) : (fuel : Nat) → List (Nat × Bool) → List (Nat × Bool)
  | 0, ws => ws
  | fuel + 1, ws =>
    let excess := total (ws.map Prod.fst) - room
    let breakable := (ws.filter Prod.snd).map Prod.fst
    let widest := breakable.foldl max 0
    let next := (breakable.filter (· ≠ widest)).foldl max 0
    if excess = 0 ∨ widest = next then ws
    else
      let most := min excess (widest - next)
      let gives := ws.map fun (w, b) => (w, if b && w = widest then most else 0)
      narrowWidest room fuel ((narrow excess (sharers gives) gives).zip (ws.map Prod.snd))

/-- The widths of columns once all are narrowed in equal shares, if there is too little room. -/
def narrowEvenly (room : Nat) (ws : List Nat) : List Nat :=
  let gives := ws.map fun w => (w, w)
  if total ws ≤ room then ws else narrow (total ws - room) (sharers gives) gives

/-- The widths that columns get in the room that there is. Each round of narrowing gains a cell at
least, so the number of cells that are too many is a bound for the number of rounds. -/
def makeRoom (room : Nat) (ws : List (Nat × Bool)) : List Nat :=
  narrowEvenly room ((narrowWidest room (total (ws.map Prod.fst)) ws).map Prod.fst)

/-! ## Drawing -/

/-- A rule: its left end, what stands between columns, and its right end. -/
structure Rule where
  left : Char
  middle : Char
  right : Char

namespace Rule

/-- The rule above a table. -/
def top : Rule := ⟨'┌', '┬', '┐'⟩

/-- The rule below the headings. -/
def inner : Rule := ⟨'├', '┼', '┤'⟩

/-- The rule below a table. -/
def bottom : Rule := ⟨'└', '┴', '┘'⟩

/-- The rule over columns of the given widths. -/
def draw (r : Rule) (widths : List Nat) : Text :=
  [r.left] ++ Text.joinWith [r.middle] (widths.map fun w => List.replicate w '─') ++ [r.right]

end Rule

/-- The lines of a text in a column. A column that is no wider than its padding shows nothing. -/
def cellLines (c : Column) (width : Nat) (t : Text) : List Text :=
  if width ≤ padding then []
  else
    let inside := width - padding
    let broken (line : Text) : List Text :=
      if c.breakable then Text.wrap .ellipsis inside line else [Text.dropExcess inside line]
    ((Text.splitOn '\n' t).flatMap fun line => broken (expandTabs line)).map fun line =>
      [' '] ++ Text.fill inside (Text.align c.alignment .ellipsis inside line) ++ [' ']

/-- The lines of a row: those of its cells side by side, with empty lines below the shorter ones. -/
def rowLines (columns : List Column) (widths : List Nat) (texts : List Text) : List Text :=
  let cells := ((columns.zip widths).zip texts).map fun ((c, w), t) => (w, cellLines c w t)
  let height := (cells.map fun (_, lines) => lines.length).foldl max 1
  (List.range height).map fun i =>
    let parts := cells.map fun (w, lines) => lines.getD i (List.replicate w ' ')
    ['│'] ++ Text.joinWith ['│'] parts ++ ['│']

namespace Table

/-- The texts of a column, with its heading if that is shown. -/
def textsOf (t : Table) (index : Nat) (c : Column) : List Text :=
  (if t.headed then [c.heading] else []) ++ t.rows.map fun r => r.getD index []

/-- The table without the controls that a console leaves out. -/
def clean (t : Table) : Table :=
  { t with
    title := t.title.map visible
    columns := t.columns.map fun c => { c with heading := visible c.heading }
    rows := t.rows.map (·.map visible) }

/-- The cells that the lines between columns and at the edges take. -/
def edges (t : Table) : Nat := t.columns.length + 1

/-- The widths of the columns in the room that there is, the padding included. -/
def widths (t : Table) (room : Nat) : List Nat :=
  let inside := room - t.edges
  let wished := t.columns.zipIdx.map fun (c, i) =>
    (((t.textsOf i c).map fun x => min inside (textWidth x + padding)).foldl max 0, c.breakable)
  makeRoom inside wished

/-- The title, in the middle above the table. -/
def titleLines (t : Table) (width : Nat) : List Text :=
  match t.title with
  | none => []
  | some title =>
    let centered (line : Text) : Text := Text.dropEnd (· = ' ') (Text.align .center .cut width line)
    (Text.splitOn '\n' title).flatMap fun line =>
      (Text.wrap .cut width (expandTabs line)).map centered

/-- The width of the drawing in the room that there is. -/
def width (t : Table) (room : Nat) : Nat := total (t.clean.widths room) + t.edges

/-- The drawing of a table in the room that there is. -/
def lines (t : Table) (room : Nat) : List Text :=
  let t := t.clean
  let ws := t.widths room
  let heads := if t.headed then
      rowLines t.columns ws (t.columns.map Column.heading) ++ [Rule.inner.draw ws]
    else []
  t.titleLines (total ws + t.edges) ++ [Rule.top.draw ws] ++ heads
    ++ t.rows.flatMap (rowLines t.columns ws) ++ [Rule.bottom.draw ws]

end Table

/-- The upper edge of a panel: a rule with the title in its middle. -/
def panelTop (width : Nat) (title : Text) : Text :=
  let inside := width - 2
  let oneLine := (visible title).map fun c => if c = '\n' then ' ' else c
  let label := Text.shorten .cut (inside - 2) ([' '] ++ expandTabs oneLine ++ [' '])
  let free := inside - Text.cellCount label
  ['┌'] ++ List.replicate (free / 2) '─' ++ label ++ List.replicate (free - free / 2) '─' ++ ['┐']

/-- A box with a title, as wide as the room that there is, around a table. -/
def panel (room : Nat) (title : Text) (t : Table) : List Text :=
  let inside := room - 2 - padding
  let width := t.width inside
  let framed (line : Text) : Text :=
    let line := if width ≤ inside then line ++ Text.spaces (inside - width)
      else Text.takeCells inside line
    ['│', ' '] ++ line ++ [' ', '│']
  panelTop room title :: (t.lines inside).map framed ++ [Rule.bottom.draw [room - 2]]

end Typeset.Console
