import Typeset.Config.Basic
import Typeset.Decimal.Dyadic
import Typeset.Text.Blank
import Typeset.Text.Utf8

/-!
# Reading a configuration from data

A configuration is read from a mapping. Entries that are missing take their defaults; every entry
that cannot be read is an issue, and so is every entry that no option asks for. The issues come in
the order of the options, followed by the unknown entries in the order of the data.

## Main definitions

* `Config.Problem`, `Config.Issue`: what is wrong, and where
* `Config.asBool`, `Config.asString`: the values that stand for a truth value or a text
* `Config.engineChoice`: the engine that a text asks for
* `Config.ofValue`: the configuration that a value describes
* `Config.Overrides.apply`: the options for compiling with those of a command line in their place
-/

namespace Typeset.Config

open Data (Value)

/-- What may be wrong with a value. -/
inductive Problem where
  /-- A text or a whole number that stands for no truth value. -/
  | unreadableBool
  /-- A value that cannot stand for a truth value. -/
  | notBool
  /-- A value that is no text. -/
  | notString
  /-- Bytes or code points that make up no text. -/
  | undecodableString
  /-- A value that is no list. -/
  | notList
  /-- A value that is no mapping, where the named group of options is expected. -/
  | notGroup (group : String)
  /-- An entry that no option asks for. -/
  | unknownEntry
  /-- A key that is no text. -/
  | keyNotString
  /-- A text that names no engine. -/
  | unsupportedEngine (given : String)
  deriving DecidableEq, Repr

namespace Problem

/-- The code of a problem. -/
def code : Problem → String
  | unreadableBool => "bool_parsing"
  | notBool => "bool_type"
  | notString => "string_type"
  | undecodableString => "string_unicode"
  | notList => "list_type"
  | notGroup _ => "model_type"
  | unknownEntry => "extra_forbidden"
  | keyNotString => "invalid_key"
  | unsupportedEngine _ => "value_error"

/-- The names of the engines, as a message lists them. -/
def engineNames : String :=
  "(" ++ ", ".intercalate (Engine.all.map fun e => "'" ++ e.name ++ "'") ++ ")"

/-- The message for a problem. -/
def message : Problem → String
  | unreadableBool => "Input should be a valid boolean, unable to interpret input"
  | notBool => "Input should be a valid boolean"
  | notString => "Input should be a valid string"
  | undecodableString =>
    "Input should be a valid string, unable to parse raw data as a unicode string"
  | notList => "Input should be a valid list"
  | notGroup group => "Input should be a valid dictionary or instance of " ++ group
  | unknownEntry => "Extra inputs are not permitted"
  | keyNotString => "Keys should be strings"
  | unsupportedEngine given =>
    "Value error, unsupported engine '" ++ given ++ "' (expected one of " ++ engineNames ++ ")"

end Problem

/-- A step on the way to a value: a key or an index. -/
inductive Step where
  | key (name : String)
  | index (n : Int)
  deriving DecidableEq, Repr

/-- A problem and the way to the value that has it. -/
structure Issue where
  place : List Step
  problem : Problem
  deriving DecidableEq, Repr

/-! ## Single values -/

/-- The texts that stand for false, in lower case. -/
def falseWords : List String := ["0", "off", "f", "false", "n", "no"]

/-- The texts that stand for true, in lower case. -/
def trueWords : List String := ["1", "on", "t", "true", "y", "yes"]

/-- The truth value of a text; the case of letters does not matter. -/
def boolOfText? (t : Text) : Option Bool :=
  let word := Text.str (Text.lower t)
  if word ∈ falseWords then some false
  else if word ∈ trueWords then some true
  else none

/-- Whether a whole number fits into sixty-four bits with a sign. -/
def isSmall (n : Int) : Bool := -9223372036854775808 ≤ n && n ≤ 9223372036854775807

/-- The truth value that a whole number stands for. -/
def boolOfInt (n : Int) : Except Problem Bool :=
  if n = 0 then .ok false
  else if n = 1 then .ok true
  else .error (if isSmall n then .unreadableBool else .notBool)

/-- The truth value that a floating-point number stands for. It has to be whole, and less in size
than all whole numbers of sixty-four bits can be. -/
def boolOfFloat (x : Float) : Except Problem Bool :=
  match Decimal.whole? x with
  | some n => if n.natAbs < Decimal.powTwo 63 then boolOfInt n else .error .notBool
  | none => .error .notBool

/-- The truth value that a value stands for. -/
def asBool : Value → Except Problem Bool
  | .bool b => .ok b
  | .int n => boolOfInt n
  | .float x => boolOfFloat x
  | .codes _ => .error .undecodableString
  | .text s => (boolOfText? s.toList).elim (.error .unreadableBool) .ok
  | .bytes data =>
    ((Text.Utf8.decode? data).bind boolOfText?).elim (.error .unreadableBool) .ok
  | _ => .error .notBool

/-- The text that a value stands for. -/
def asString : Value → Except Problem String
  | .text s => .ok s
  | .bytes data =>
    (Text.Utf8.decode? data).elim (.error .undecodableString) fun t => .ok (Text.str t)
  | .codes _ => .error .undecodableString
  | _ => .error .notString

/-- The items of a value. -/
def asItems : Value → Except Problem (List Value)
  | .list vs => .ok vs
  | .pair a b => .ok [a, b]
  | .set vs => .ok vs
  | _ => .error .notList

/-- The engine that a text asks for: blanks around the name and the case of letters do not matter,
and a blank text asks for none. -/
def engineChoice (given : String) : Except Problem (Option Engine) :=
  let name := Text.lower (Text.trim given.toList)
  if name.isEmpty then .ok none
  else
    match Engine.ofName? name with
    | some e => .ok (some e)
    | none => .error (.unsupportedEngine given)

/-- The engine that a value asks for. -/
def asEngine : Value → Except Problem (Option Engine)
  | .null => .ok none
  | v => asString v >>= engineChoice

/-! ## Groups of options -/

/-- A value read in part: what could be read, and the issues with the rest. -/
structure Partial (α : Type) where
  value : α
  issues : List Issue := []

namespace Partial

/-- The value, unless there are issues. -/
def toExcept (p : Partial α) : Except (List Issue) α :=
  if p.issues.isEmpty then .ok p.value else .error p.issues

/-- Puts two readings together. -/
def and (f : Partial (α → β)) (p : Partial α) : Partial β :=
  ⟨f.value p.value, f.issues ++ p.issues⟩

end Partial

/-- The entries of a mapping. -/
abbrev Entries := List (Value × Value)

/-- The value at a text key. -/
def field? (name : String) (entries : Entries) : Option Value := (Value.map entries).get? name

/-- The option `name`, read by `read`. -/
def option (name : String) (fallback : α) (read : Value → Except Problem α) (entries : Entries) :
    Partial α :=
  match (field? name entries).map read with
  | none => ⟨fallback, []⟩
  | some (.ok a) => ⟨a, []⟩
  | some (.error p) => ⟨fallback, [⟨[.key name], p⟩]⟩

/-- The step to a key that is no text: whole numbers and truth values lead as indexes. -/
def stepOfKey : Value → Step
  | .text s => .key s
  | .int n => if isSmall n then .index n else .key (toString n)
  | .bool b => .index (if b then 1 else 0)
  | v => .key v.inspect

/-- The issues with the entries that no option of the list `names` asks for. -/
def strays (names : List String) (entries : Entries) : List Issue :=
  entries.filterMap fun (k, _) =>
    match k with
    | .text s => if s ∈ names then none else some ⟨[.key s], .unknownEntry⟩
    | k => some ⟨[stepOfKey k], .keyNotString⟩

/-- Whether a key consists of code points that make up no text. -/
def isBroken (k : Value) : Bool :=
  match k with
  | .codes _ => true
  | _ => false

/-- A group of options, read from the entries of a mapping. A broken key is the only issue. -/
def group (title : String) (fallback : α) (names : List String) (read : Entries → Partial α) :
    Value → Partial α
  | .map entries =>
    let p := read entries
    if entries.any fun e => isBroken e.1 then ⟨p.value, [⟨[], .undecodableString⟩]⟩
    else ⟨p.value, p.issues ++ strays names entries⟩
  | _ => ⟨fallback, [⟨[], .notGroup title⟩]⟩

/-- The group of options at the key `name`. -/
def subgroup (name : String) (fallback : α) (read : Value → Partial α) (entries : Entries) :
    Partial α :=
  match field? name entries with
  | none => ⟨fallback, []⟩
  | some v =>
    let p := read v
    ⟨p.value, p.issues.map fun i => ⟨.key name :: i.place, i.problem⟩⟩

/-- The texts of the items and the issues with those that are none; `n` is the index of the
first. -/
def stringItems : (n : Nat) → List Value → Partial (List String)
  | _, [] => ⟨[], []⟩
  | n, v :: vs =>
    let rest := stringItems (n + 1) vs
    match asString v with
    | .ok s => ⟨s :: rest.value, rest.issues⟩
    | .error p => ⟨rest.value, ⟨[.index n], p⟩ :: rest.issues⟩

/-- A list of texts. -/
def asStrings (v : Value) : Partial (List String) :=
  match asItems v with
  | .ok vs => stringItems 0 vs
  | .error p => ⟨[], [⟨[], p⟩]⟩

/-- The names of the options for compiling. -/
def buildNames : List String :=
  ["engine", "enable_synctex", "shell_escape", "clean_aux_files", "bibtex"]

/-- The options for compiling. -/
def buildOptions : Value → Partial BuildOptions :=
  group "BuildConfig" {} buildNames fun es =>
    Partial.and
      (Partial.and
        (Partial.and
          (Partial.and (Partial.and ⟨BuildOptions.mk, []⟩ (option "engine" none asEngine es))
            (option "enable_synctex" true asBool es))
          (option "shell_escape" false asBool es))
        (option "clean_aux_files" false asBool es))
      (option "bibtex" true asBool es)

/-- The options for cleaning. -/
def cleanOptions : Value → Partial CleanOptions :=
  group "CleanConfig" {} ["aux_file_extensions"] fun es =>
    Partial.and ⟨CleanOptions.mk, []⟩
      (subgroup "aux_file_extensions" defaultAuxiliaries asStrings es)

/-- The names of the options for linting. -/
def lintNames : List String :=
  ["suppress_errors", "suppress_warnings", "suppress_infos", "include_log_range"]

/-- The options for linting. -/
def lintOptions : Value → Partial LintOptions :=
  group "LinterConfig" {} lintNames fun es =>
    Partial.and
      (Partial.and
        (Partial.and (Partial.and ⟨LintOptions.mk, []⟩ (option "suppress_errors" false asBool es))
          (option "suppress_warnings" false asBool es))
        (option "suppress_infos" false asBool es))
      (option "include_log_range" false asBool es)

/-- The whole configuration, with its issues. -/
def wholeConfig : Value → Partial Config :=
  group "LatexToolsConfig" {} ["debug", "build", "clean", "linter"] fun es =>
    Partial.and
      (Partial.and
        (Partial.and (Partial.and ⟨Config.mk, []⟩ (option "debug" false asBool es))
          (subgroup "build" {} buildOptions es))
        (subgroup "clean" {} cleanOptions es))
      (subgroup "linter" {} lintOptions es)

/-- The configuration that a value describes. -/
def ofValue (v : Value) : Except (List Issue) Config := (wholeConfig v).toExcept

/-! ## Overrides -/

/-- What a command line may ask for in place of the configured options. -/
structure Overrides where
  engine : Option String := none
  synctex : Option Bool := none
  shellEscape : Bool := false
  cleanAux : Bool := false
  deriving DecidableEq, Repr

/-- The entries that the command line sets. -/
def Overrides.updates (o : Overrides) : List (String × Value) :=
  (o.engine.map fun e => ("engine", .text e)).toList
    ++ (o.synctex.map fun b => ("enable_synctex", .bool b)).toList
    ++ (if o.shellEscape then [("shell_escape", .bool true)] else [])
    ++ (if o.cleanAux then [("clean_aux_files", .bool true)] else [])

/-- The options for compiling with those of the command line in their place. If there are any, the
options are read once more, from the data that they are with the entries of the command line. -/
def Overrides.apply (o : Overrides) (b : BuildOptions) : Except (List Issue) BuildOptions :=
  if o.updates.isEmpty then .ok b else (buildOptions (b.record.merge o.updates)).toExcept

end Typeset.Config
