import Typeset.Data.Value

/-!
# JSON

Values written as JSON in ASCII. In the indented layout every item and every entry stands on a line
of its own, two spaces deeper than its collection; an empty collection stays on one line.

## Main definitions

* `Data.Json.quote`: a string literal
* `Data.Json.compact`, `Data.Json.indented`: the two layouts
-/

namespace Typeset.Data.Json

/-- The escape of a UTF-16 unit. -/
def unitEscape (n : Nat) : Text := '\\' :: 'u' :: Text.hex 4 n

/-- A character inside a string literal; beyond the basic plane it takes two units. -/
def quoteChar (c : Char) : Text :=
  if c = '"' ∨ c = '\\' then ['\\', c]
  else if c = '\n' then ['\\', 'n']
  else if c = '\r' then ['\\', 'r']
  else if c = '\t' then ['\\', 't']
  else if c = '\x08' then ['\\', 'b']
  else if c = '\x0c' then ['\\', 'f']
  else
    let n := c.toNat
    if 32 ≤ n ∧ n < 127 then [c]
    else if n < 0x10000 then unitEscape n
    else
      let m := n - 0x10000
      unitEscape (0xD800 + m / 0x400) ++ unitEscape (0xDC00 + m % 0x400)

/-- A string literal. -/
def quote (s : String) : String := Text.str ('"' :: s.toList.flatMap quoteChar ++ ['"'])

/-- A string literal of code points. A half of a surrogate pair is one unit. -/
def quoteCodes (ns : List Nat) : String :=
  let shown (n : Nat) : Text := if n.isValidChar then quoteChar (Char.ofNat n) else unitEscape n
  Text.str ('"' :: ns.flatMap shown ++ ['"'])

/-- A floating-point number; the values beyond all numbers have names of their own. -/
def number (x : Float) : String :=
  match Decimal.ofFloat x with
  | .finite _ => Decimal.shortest x
  | .infinite negative => Decimal.sign negative ++ "Infinity"
  | .notANumber => "NaN"

/-- The parts of a collection between its brackets; `depth` is the depth of the collection in the
indented layout. -/
def enclose (depth : Option Nat) (first last : String) (parts : List String) : String :=
  if parts.isEmpty then first ++ last
  else
    match depth with
    | none => first ++ ",".intercalate parts ++ last
    | some d =>
      let line (n : Nat) := "\n" ++ String.ofList (List.replicate (2 * n) ' ')
      first ++ line (d + 1) ++ ("," ++ line (d + 1)).intercalate parts ++ line d ++ last

/-- The mark between a key and its value. -/
def colon (depth : Option Nat) : String := if depth.isSome then ": " else ":"

mutual

/-- The value as JSON. Values that JSON does not have are shown as string literals. -/
def render (depth : Option Nat) : Value → String
  | .null => "null"
  | .bool b => if b then "true" else "false"
  | .int n => toString n
  | .float x => number x
  | .text s => quote s
  | .bytes data => quote (Value.inspectBytes data)
  | .codes ns => quoteCodes ns
  | .moment m => quote m.shown
  | .list vs => enclose depth "[" "]" (renderAll (depth.map (· + 1)) vs)
  | .pair a b =>
    enclose depth "[" "]" [render (depth.map (· + 1)) a, render (depth.map (· + 1)) b]
  | .set vs => enclose depth "[" "]" (renderAll (depth.map (· + 1)) vs)
  | .map es => enclose depth "\x7b" "\x7d" (renderEntries (depth.map (· + 1)) es)

/-- Each value as JSON. -/
def renderAll (depth : Option Nat) : List Value → List String
  | [] => []
  | v :: vs => render depth v :: renderAll depth vs

/-- Each entry as JSON. -/
def renderEntries (depth : Option Nat) : List (Value × Value) → List String
  | [] => []
  | (k, v) :: es =>
    (quote k.display ++ colon depth ++ render depth v) :: renderEntries depth es

end

/-- The value on one line. -/
def compact (v : Value) : String := render none v

/-- The value in the indented layout. -/
def indented (v : Value) : String := render (some 0) v

end Typeset.Data.Json
