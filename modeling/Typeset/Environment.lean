import Typeset.Path

/-!
# The environment

The variables that a program is started with, and the paths that depend on them: a leading `~` is
the home of the user, and `~name` that of another account.

## Main definitions

* `Environment`: variables and accounts
* `Environment.home?`: the home of the user
* `Environment.expand?`: a path with its leading `~` carried out
-/

namespace Typeset

/-- The variables that a program is started with, and the homes of the accounts. -/
structure Environment where
  bindings : List (String × String) := []
  accounts : List (Text × Text) := [("root".toList, "/root".toList)]
  deriving Repr

namespace Environment

/-- The value of a variable. -/
def value? (env : Environment) (name : String) : Option String := env.bindings.lookup name

/-- The value of a variable, if it is not empty. -/
def nonempty? (env : Environment) (name : String) : Option String :=
  (env.value? name).filter fun v => !v.isEmpty

/-- A path without the slashes at its end. -/
def withoutEndSlashes (t : Text) : Text :=
  let t := Text.dropEnd (· = '/') t
  if t.isEmpty then ['/'] else t

/-- The text of the home of an account; the empty name stands for the user. A text that begins with
`~` is no home. -/
def homeText? (env : Environment) (account : Text) : Option Text :=
  let given := if account.isEmpty then (env.value? "HOME").map String.toList else none
  let name := if account.isEmpty then "root".toList else account
  match (given <|> env.accounts.lookup name).map withoutEndSlashes with
  | some ('~' :: _) => none
  | home => home

/-- The home of the user. -/
def home? (env : Environment) : Option Path := (env.homeText? []).map .ofText

/-- The path with its leading `~` carried out; it fails if there is no such home. -/
def expand? (env : Environment) (p : Path) : Option Path :=
  match p.anchor, p.parts with
  | .relative, ('~' :: account) :: rest =>
    (env.homeText? account).map fun home =>
      let home := Path.ofText home
      { home with parts := home.parts ++ rest }
  | _, _ => some p

end Environment

end Typeset
