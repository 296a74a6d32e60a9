import Typeset.Text.Expression

/-!
# Wildcards

Patterns for file names: `*` stands for any run of characters, `?` for one character, and every
other character for itself. Neither wildcard stands for a line feed. Before a pattern is read, the
name of the document takes the place of each `{basename}` in it.

## Main definitions

* `Wildcard.Piece`: the parts of a pattern
* `Wildcard.accepts`: whether the pieces describe a name
* `Wildcard.matchesName`: whether a pattern describes a name
* `Wildcard.compile?`: the regular expression that a pattern is written as

## Main results

* `Wildcard.accepts_literals`: literal pieces describe one name only
* `Wildcard.matchesName_of_noLineFeed`: on names without a line feed at the end, a pattern describes
  what its pieces describe
-/

namespace Typeset.Wildcard

/-- A part of a pattern. -/
inductive Piece where
  /-- Any run of characters other than line feeds. -/
  | run
  /-- One character other than a line feed. -/
  | single
  | literal (c : Char)
  deriving DecidableEq, Repr

/-- The piece that a character of a pattern stands for. -/
def Piece.ofChar (c : Char) : Piece :=
  if c = '*' then .run else if c = '?' then .single else .literal c

/-- Whether the pieces describe a name. -/
def accepts : List Piece → Text → Bool
  | [], name => name.isEmpty
  | .run :: ps, [] => accepts ps []
  | .run :: ps, c :: name => accepts ps (c :: name) || (c != '\n' && accepts (.run :: ps) name)
  | .single :: _, [] => false
  | .single :: ps, c :: name => c != '\n' && accepts ps name
  | .literal _ :: _, [] => false
  | .literal a :: ps, c :: name => a == c && accepts ps name

/-- What stands for the name of the document in a pattern. -/
def placeholder : Text := "\x7bbasename\x7d".toList

/-- The pieces of a pattern for a document with the given name. -/
def pieces (pattern base : Text) : List Piece :=
  (Text.replace placeholder base pattern).map Piece.ofChar

/-- Whether a pattern describes a name. One line feed at the end of a name may be left over. -/
def matchesName (pattern base name : Text) : Bool :=
  accepts (pieces pattern base) name
    || (name.getLast? == some '\n' && accepts (pieces pattern base) name.dropLast)

/-! ## Patterns as regular expressions -/

/-- The text of the regular expression for a pattern. Everything is written so that it stands for
itself, and then what has become of a wildcard is replaced. -/
def expression (pattern base : Text) : Text :=
  let escaped := Expression.escape (Text.replace placeholder base pattern)
  let withRuns := Text.replace ['\\', '*'] ['.', '*'] escaped
  '^' :: (Text.replace ['\\', '?'] ['.'] withRuns ++ ['$'])

/-- The regular expression for a pattern. -/
def compile? (pattern base : Text) : Option Expression :=
  Expression.ofText? (expression pattern base)

/-! ## Names -/

theorem accepts_literals (cs name : Text) : accepts (cs.map .literal) name = true ↔ name = cs := by
  induction cs generalizing name with
  | nil => simp [accepts]
  | cons c cs ih =>
    cases name with
    | nil => simp [accepts]
    | cons d name =>
      simp only [List.map_cons, accepts, Bool.and_eq_true, beq_iff_eq, ih, List.cons.injEq]
      exact and_congr_left fun _ => eq_comm

theorem matchesName_of_noLineFeed {pattern base name : Text} (h : '\n' ∉ name) :
    matchesName pattern base name = accepts (pieces pattern base) name := by
  have : name.getLast? ≠ some '\n' := fun hl => h (List.mem_of_getLast? hl)
  simp [matchesName, this]

end Typeset.Wildcard
