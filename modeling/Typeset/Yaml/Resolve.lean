import Typeset.Yaml.Source

/-!
# What plain scalars are

A plain scalar without a tag is a truth value, a number, nothing, a moment or one of two special
marks if it is written like one, and a text otherwise.

## Main definitions

* `Yaml.Tag`: the tags that have a meaning
* `Yaml.isTruth`, `Yaml.isFloat`, `Yaml.isInt`, `Yaml.isMoment`, `Yaml.isNothing`: the ways in which
  such values are written
* `Yaml.resolve`: the tag of a plain scalar

## Main results

* `Yaml.Tag.ofName?_name`: a tag is known by its name
-/

namespace Typeset.Yaml

/-- The tags that have a meaning. -/
inductive Tag where
  | null
  | bool
  | int
  | float
  | text
  | bytes
  | moment
  | list
  | map
  | set
  | orderedMap
  | pairs
  /-- The mark of a mapping that is merged into the one around it. -/
  | merge
  /-- The mark of the value that stands for a whole mapping. -/
  | value
  /-- A sign that begins a label. -/
  | sign
  deriving DecidableEq, Repr

namespace Tag

/-- All tags. -/
def all : List Tag :=
  [null, bool, int, float, text, bytes, moment, list, map, set, orderedMap, pairs, merge, value,
    sign]

/-- Whether a tag is that of a value. The others are marks. -/
def isKind : Tag → Bool
  | merge => false
  | value => false
  | sign => false
  | _ => true

/-- The short name of a tag. -/
def shortName : Tag → String
  | null => "null"
  | bool => "bool"
  | int => "int"
  | float => "float"
  | text => "str"
  | bytes => "binary"
  | moment => "timestamp"
  | list => "seq"
  | map => "map"
  | set => "set"
  | orderedMap => "omap"
  | pairs => "pairs"
  | merge => "merge"
  | value => "value"
  | sign => "yaml"

/-- The beginning of the names of all tags. -/
def namespaceName : String := "tag:yaml.org,2002:"

/-- The name of a tag. -/
def name (t : Tag) : Text := Text.ofString (namespaceName ++ t.shortName)

/-- The tag with a name. -/
def ofName? (name : Text) : Option Tag := all.find? fun t => t.name = name

theorem ofName?_name (t : Tag) : ofName? t.name = some t := by cases t <;> decide

end Tag

/-! ## Runs of characters -/

/-- Whether a character is a decimal digit or an underscore. -/
def isDecimal (c : Char) : Bool := c.isDigit || c = '_'

/-- The text without a sign at its beginning. -/
def dropSign : Text → Text
  | '+' :: t => t
  | '-' :: t => t
  | t => t

/-- Whether a text is not empty and all of its characters have a property. -/
def isRun (p : Char → Bool) (t : Text) : Bool := !t.isEmpty && t.all p

/-- Whether a text is a number below sixty, of one or two digits. -/
def isSixtieth (t : Text) : Bool :=
  match t with
  | [a] => a.isDigit
  | [a, b] => '0' ≤ a && a ≤ '5' && b.isDigit
  | _ => false

/-- Whether the pieces after the first are numbers below sixty, and there is at least one. -/
def areSixtieths (ps : List Text) : Bool := !ps.isEmpty && ps.all isSixtieth

/-! ## Kinds of scalars -/

/-- The words for truth values. -/
def truthWords : List String :=
  ["yes", "Yes", "YES", "no", "No", "NO", "true", "True", "TRUE", "false", "False", "FALSE", "on",
    "On", "ON", "off", "Off", "OFF"]

/-- Whether a text is written like a truth value. -/
def isTruth (t : Text) : Bool := Text.str t ∈ truthWords

/-- Whether a text is written like nothing. -/
def isNothing (t : Text) : Bool := Text.str t ∈ ["", "~", "null", "Null", "NULL"]

/-- Whether a text is empty or an exponent with its sign. -/
def isExponent : Text → Bool
  | [] => true
  | e :: sign :: digits =>
    (e = 'e' || e = 'E') && (sign = '+' || sign = '-') && isRun Char.isDigit digits
  | _ => false

/-- Whether a text begins with a digit and holds only digits and underscores. -/
def startsWithDigit : Text → Bool
  | [] => false
  | c :: t => c.isDigit && t.all isDecimal

/-- Whether a text is a number with a point, without its sign. -/
def isPointed (t : Text) : Bool :=
  match Text.breakOn? ['.'] t with
  | some (whole, rest) =>
    startsWithDigit whole && isExponent (rest.dropWhile isDecimal)
  | none => false

/-- Whether a text is a number in base sixty with a point, without its sign. -/
def isPointedSixty (t : Text) : Bool :=
  match Text.breakOn? ['.'] t with
  | some (whole, rest) =>
    match Text.splitOn ':' whole with
    | first :: ps => startsWithDigit first && areSixtieths ps && rest.all isDecimal
    | [] => false
  | none => false

/-- Whether a text is written like a number with a point. -/
def isFloat (t : Text) : Bool :=
  let body := dropSign t
  isPointed body || isPointedSixty body
    || (match t with
      | '.' :: r => startsWithDigit (r.takeWhile isDecimal) && isExponent (r.dropWhile isDecimal)
      | _ => false)
    || Text.str body ∈ [".inf", ".Inf", ".INF"] || Text.str t ∈ [".nan", ".NaN", ".NAN"]

/-- Whether a text is a whole number, without its sign. -/
def isWhole : Text → Bool
  | '0' :: 'b' :: digits => isRun (fun c => c = '0' || c = '1' || c = '_') digits
  | '0' :: 'x' :: digits =>
    isRun (fun c => isDecimal c || ('a' ≤ c && c ≤ 'f') || ('A' ≤ c && c ≤ 'F')) digits
  | '0' :: digits => digits.all fun c => ('0' ≤ c && c ≤ '7') || c = '_'
  | t =>
    match Text.splitOn ':' t with
    | first :: ps => startsWithDigit first && (ps.isEmpty || areSixtieths ps)
    | [] => false

/-- Whether a text is written like a whole number. -/
def isInt (t : Text) : Bool := isWhole (dropSign t)

/-! ## Moments -/

/-- The parts of a moment, as texts of digits. -/
structure MomentParts where
  year : Text
  month : Text
  day : Text
  /-- Hour, minute, second and fraction of a second. -/
  time : Option (Text × Text × Text × Text) := none
  /-- The sign, the hours and the minutes of the distance from the common time zone; no sign for
  that zone itself. -/
  zone : Option (Option Char × Text × Text) := none
  deriving DecidableEq, Repr

/-- Between `least` and `most` digits at the beginning of a text, as many as there are. -/
def digits? (least most : Nat) (t : Text) : Option (Text × Text) :=
  let run := (t.take most).takeWhile Char.isDigit
  if run.length < least then none else some (run, t.drop run.length)

/-- A text without the character `c` at its beginning. -/
def afterChar? (c : Char) (t : Text) : Option Text := Text.after? [c] t

/-- The zone at the end of a moment. -/
def zone? (t : Text) : Option (Option (Option Char × Text × Text)) :=
  match t.dropWhile isSpacer with
  | [] => if t.isEmpty then some none else none
  | ['Z'] => some (some (none, [], []))
  | sign :: r =>
    if sign = '+' ∨ sign = '-' then do
      let (hours, r) ← digits? 1 2 r
      match r with
      | [] => return some (some sign, hours, [])
      | ':' :: r =>
        let (minutes, r) ← digits? 2 2 r
        if r.isEmpty then return some (some sign, hours, minutes) else none
      | _ => none
    else none

/-- The time of day at the end of a moment, and the zone behind it. -/
def timeOfDay? (t : Text) :
    Option ((Text × Text × Text × Text) × Option (Option Char × Text × Text)) := do
  let (hour, t) ← digits? 1 2 t
  let (minute, t) ← digits? 2 2 (← afterChar? ':' t)
  let (second, t) ← digits? 2 2 (← afterChar? ':' t)
  let (fraction, t) :=
    match t with
    | '.' :: r => (r.takeWhile Char.isDigit, r.dropWhile Char.isDigit)
    | t => ([], t)
  return ((hour, minute, second, fraction), ← zone? t)

/-- The parts of a moment. Month and day have two digits unless a time follows them or `loose` is
set. -/
def momentParts? (loose : Bool) (t : Text) : Option MomentParts := do
  let (year, t) ← digits? 4 4 t
  let (month, t) ← digits? 1 2 (← afterChar? '-' t)
  let (day, t) ← digits? 1 2 (← afterChar? '-' t)
  match t with
  | [] =>
    if loose || (month.length = 2 && day.length = 2) then
      return { year := year, month := month, day := day }
    else none
  | c :: r =>
    let r ← if c = 'T' ∨ c = 't' then some r
      else if isSpacer c then some (r.dropWhile isSpacer) else none
    let (time, zone) ← timeOfDay? r
    return { year := year, month := month, day := day, time := some time, zone := zone }

/-- Whether a text is written like a moment. -/
def isMoment (t : Text) : Bool := (momentParts? false t).isSome

/-- The text without a line feed at its end; what a text is does not depend on it. -/
def dropFinalBreak (t : Text) : Text := if t.getLast? = some '\n' then t.dropLast else t

/-- Whether a text is a sign that begins a label. -/
def isSign (t : Text) : Bool := Text.str t ∈ ["!", "&", "*"]

/-- The tag of a text by the way in which it is written. -/
def classify (t : Text) : Tag :=
  if isTruth t then .bool
  else if isFloat t then .float
  else if isInt t then .int
  else if t = ['<', '<'] then .merge
  else if isNothing t then .null
  else if isMoment t then .moment
  else if t = ['='] then .value
  else if isSign t then .sign
  else .text

/-- The tag of a plain scalar. A line feed alone is a text. -/
def resolve (t : Text) : Tag := if t = ['\n'] then .text else classify (dropFinalBreak t)

end Typeset.Yaml
