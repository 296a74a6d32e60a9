import Typeset.Text.Basic

/-!
# Words of a command line

The words of a command line are options and arguments. A long option may have its value in the same
word, behind an equals sign; short options may stand together in one word, of which the last may
have its value right behind it. An option that takes a value and has none in its word takes the next
word, whatever that is. Two hyphens end the options.

## Main definitions

* `Command.Spec`: an option as it is spelled
* `Command.readWord`: the options in a word
* `Command.scan`: the options and arguments among words
-/

namespace Typeset.Command

variable {κ : Type}

/-- An option as it is spelled. A name of one hyphen and one letter is a short name. -/
structure Spec (κ : Type) where
  key : κ
  names : List Text
  takesValue : Bool := false

/-- An option that was given, with its value if it takes one. -/
structure Given (κ : Type) where
  key : κ
  value : Option Text := none

/-- What is wrong with the options of a command line. -/
inductive OptionProblem where
  | unknown (name : Text)
  | missingValue (name : Text)
  | unwantedValue (name : Text)
  deriving DecidableEq, Repr

/-- Whether a name is that of a short option. -/
def isShort : Text → Bool
  | ['-', c] => c ≠ '-'
  | _ => false

/-- The option with a long name. -/
def findLong? (specs : List (Spec κ)) (name : Text) : Option (Spec κ) :=
  if isShort name then none else specs.find? fun s => s.names.contains name

/-- The option with a letter for its short name. -/
def findShort? (specs : List (Spec κ)) (letter : Char) : Option (Spec κ) :=
  specs.find? fun s => s.names.contains ['-', letter]

/-- What a word says: the options in it, and the option that waits for its value, with the name
under which it was given. -/
structure Reading (κ : Type) where
  given : List (Given κ) := []
  waiting : Option (κ × Text) := none

/-- A name and what stands behind the first equals sign, if there is one. -/
def cutValue (word : Text) : Text × Option Text :=
  match Text.breakOn? ['='] word with
  | some (name, value) => (name, some value)
  | none => (word, none)

/-- What a long option says. -/
def readLong (s : Spec κ) (name : Text) (value : Option Text) : Except OptionProblem (Reading κ) :=
  match s.takesValue, value with
  | true, some v => .ok { given := [⟨s.key, some v⟩] }
  | true, none => .ok { waiting := some (s.key, name) }
  | false, some _ => .error (.unwantedValue name)
  | false, none => .ok { given := [⟨s.key, none⟩] }

/-- What short options say that stand together. -/
def readShorts (specs : List (Spec κ)) : List Char → Except OptionProblem (Reading κ)
  | [] => .ok {}
  | c :: cs =>
    match findShort? specs c with
    | none => .error (.unknown ['-', c])
    | some s =>
      if s.takesValue then
        if cs.isEmpty then .ok { waiting := some (s.key, ['-', c]) }
        else .ok { given := [⟨s.key, some cs⟩] }
      else (readShorts specs cs).map fun r => { r with given := ⟨s.key, none⟩ :: r.given }

/-- What a word says that looks like an option. -/
def readWord (specs : List (Spec κ)) (word : Text) : Except OptionProblem (Reading κ) :=
  let (name, value) := cutValue word
  match findLong? specs name with
  | some s => readLong s name value
  | none =>
    if Text.beginsWith ['-', '-'] word then .error (.unknown name)
    else readShorts specs (word.drop 1)

/-- Whether a word looks like an option. A hyphen alone does not. -/
def looksLikeOption : Text → Bool
  | '-' :: _ :: _ => true
  | _ => false

/-- The word that ends the options. -/
def separator : Text := ['-', '-']

/-- The options and the arguments among words. -/
structure Scan (κ : Type) where
  given : List (Given κ) := []
  arguments : List Text := []

/-- The options and arguments among words. Options either may stand behind arguments as well, or end
with the first argument. -/
def scan (specs : List (Spec κ)) (mixed : Bool) : List Text → Except OptionProblem (Scan κ)
  | [] => .ok {}
  | word :: words =>
    if word = separator then .ok { arguments := words }
    else if looksLikeOption word then
      match readWord specs word with
      | .error p => .error p
      | .ok r =>
        match r.waiting, words with
        | none, words =>
          (scan specs mixed words).map fun s => { s with given := r.given ++ s.given }
        | some (key, _), value :: words =>
          (scan specs mixed words).map fun s =>
            { s with given := r.given ++ ⟨key, some value⟩ :: s.given }
        | some (_, name), [] => .error (.missingValue name)
    else if mixed then
      (scan specs mixed words).map fun s => { s with arguments := word :: s.arguments }
    else .ok { arguments := word :: words }

namespace Scan

variable [DecidableEq κ]

/-- How often an option was given. -/
def count (s : Scan κ) (key : κ) : Nat := s.given.countP fun g => g.key = key

/-- Whether an option was given. -/
def has (s : Scan κ) (key : κ) : Bool := s.given.any fun g => g.key = key

/-- The value of an option; the last one given counts. -/
def value? (s : Scan κ) (key : κ) : Option Text :=
  s.given.reverse.findSome? fun g => if g.key = key then g.value else none

/-- The first of some options to be given. -/
def first? (s : Scan κ) (keys : List κ) : Option κ :=
  (s.given.map Given.key).find? fun k => keys.contains k

/-- The last of some options to be given. -/
def last? (s : Scan κ) (keys : List κ) : Option κ :=
  (s.given.map Given.key).reverse.find? fun k => keys.contains k

end Scan

end Typeset.Command
