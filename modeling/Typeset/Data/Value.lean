import Typeset.Data.Moment
import Typeset.Decimal.Shortest
import Typeset.Text.Quoted

/-!
# Values

A value of a data format: nothing, a truth value, a number, a text, bytes, a moment in time, or a
collection of values. Mappings keep the order of their entries.

## Main definitions

* `Data.Value`: the values
* `Data.Value.display`, `Data.Value.inspect`: a value as a text, and with its texts between quotes
* `Data.Value.get?`, `Data.Value.merge`: an entry of a mapping, and other entries in their place
* `Data.Value.isTrue`: whether a value counts as true
-/

namespace Typeset.Data

/-- A value of a data format. -/
inductive Value where
  | null
  | bool (b : Bool)
  | int (n : Int)
  | float (x : Float)
  | text (s : String)
  /-- Code points that make up no text, because some of them are halves of surrogate pairs. -/
  | codes (ns : List Nat)
  | bytes (data : List UInt8)
  | moment (m : Moment)
  | list (items : List Value)
  /-- A pair, as it occurs among the items of an ordered mapping. -/
  | pair (fst snd : Value)
  | set (items : List Value)
  | map (entries : List (Value × Value))
  deriving Inhabited

namespace Value

/-- A mapping whose keys are texts. -/
def record (fields : List (String × Value)) : Value :=
  .map (fields.map fun (k, v) => (.text k, v))

/-- A text, or nothing. -/
def ofText? : Option String → Value
  | some s => .text s
  | none => .null

/-- Whether the value is a text key. -/
def isKey (key : String) : Value → Bool
  | .text s => s == key
  | _ => false

/-- The value at a text key. -/
def get? (key : String) : Value → Option Value
  | .map entries => (entries.find? fun e => isKey key e.1).map Prod.snd
  | _ => none

/-- The entries with a value at a text key, in the place of the one that is there. -/
def put (key : String) (v : Value) : List (Value × Value) → List (Value × Value)
  | [] => [(.text key, v)]
  | e :: es => if isKey key e.1 then (e.1, v) :: es else e :: put key v es

/-- The mapping with the values of some text keys in the place of those that are there. -/
def merge (v : Value) (fields : List (String × Value)) : Value :=
  match v with
  | .map entries => .map (fields.foldl (fun es f => put f.1 f.2 es) entries)
  | v => v

/-- The text, if the value is one. -/
def text? : Value → Option String
  | .text s => some s
  | _ => none

/-- The items, if the value is a list. -/
def items? : Value → Option (List Value)
  | .list vs => some vs
  | _ => none

/-- Whether the value counts as true: it is not nothing, false, zero or empty. -/
def isTrue : Value → Bool
  | .null => false
  | .bool b => b
  | .int n => n ≠ 0
  | .float x => x != 0.0
  | .text s => !s.isEmpty
  | .codes ns => !ns.isEmpty
  | .bytes b => !b.isEmpty
  | .moment _ => true
  | .list vs => !vs.isEmpty
  | .pair _ _ => true
  | .set vs => !vs.isEmpty
  | .map es => !es.isEmpty

/-- A byte between quotes. -/
def inspectByte (q : Char) (b : UInt8) : Text :=
  let c := Char.ofNat b.toNat
  if b.toNat < 128 then Text.quoteChar q c else '\\' :: 'x' :: Text.hex 2 b.toNat

/-- Bytes between quotes. -/
def inspectBytes (data : List UInt8) : String :=
  let q := if 39 ∈ data ∧ 34 ∉ data then '"' else '\''
  Text.str ('b' :: q :: data.flatMap (inspectByte q) ++ [q])

/-- Code points between quotes. -/
def inspectCodes (ns : List Nat) : String :=
  let q := if 39 ∈ ns ∧ 34 ∉ ns then '"' else '\''
  let shown (n : Nat) : Text :=
    if n.isValidChar then Text.quoteChar q (Char.ofNat n) else Text.codeEscape n
  Text.str (q :: ns.flatMap shown ++ [q])

mutual

/-- The value with its texts between quotes. -/
def inspect : Value → String
  | .null => "None"
  | .bool b => if b then "True" else "False"
  | .int n => toString n
  | .float x => Decimal.shortest x
  | .text s => Text.str (Text.quote s.toList)
  | .codes ns => inspectCodes ns
  | .bytes data => inspectBytes data
  | .moment m => m.shown
  | .list vs => "[" ++ ", ".intercalate (inspectAll vs) ++ "]"
  | .pair a b => "(" ++ inspect a ++ ", " ++ inspect b ++ ")"
  | .set vs => if vs.isEmpty then "set()" else "\x7b" ++ ", ".intercalate (inspectAll vs) ++ "\x7d"
  | .map es => "\x7b" ++ ", ".intercalate (inspectEntries es) ++ "\x7d"

/-- Each value with its texts between quotes. -/
def inspectAll : List Value → List String
  | [] => []
  | v :: vs => inspect v :: inspectAll vs

/-- Each entry, the key and the value with a colon between them. -/
def inspectEntries : List (Value × Value) → List String
  | [] => []
  | (k, v) :: es => (inspect k ++ ": " ++ inspect v) :: inspectEntries es

end

/-- The value as a text: a text stands for itself. -/
def display : Value → String
  | .text s => s
  | v => v.inspect

end Value

end Typeset.Data
