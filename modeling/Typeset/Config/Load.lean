import Typeset.Config.Validate
import Typeset.Environment
import Typeset.Failure
import Typeset.Text.Utf8.Fault
import Typeset.Yaml.Value

/-!
# Loading the configuration

The configuration is read from a file that the caller names, or else from the one that the
environment names, or else from the user's own file. Only the last may be missing; without any file
every option has its default.

## Main definitions

* `Config.LoadProblem`: why there is no configuration
* `Config.defaultPath?`: the user's own file
* `Config.candidate`: the file to be read
* `Config.load`: the configuration
-/

namespace Typeset.Config

open Data (Value)

/-- Why there is no configuration. -/
inductive LoadProblem where
  | notFound (path : Path)
  | unreadable (path : Path) (error : FileError)
  /-- The file breaks a rule of its format; the text is what it holds. -/
  | malformed (path : Path) (breach : Yaml.Breach) (document : Text)
  | notMapping (path : Path)
  | invalid (path : Path) (issues : List Issue)
  /-- A path depends on a home that there is not. -/
  | homeless
  /-- An error that nobody expects in this place. -/
  | unforeseen (error : FileError)
  /-- The file holds bytes that are no text; the fault says where. -/
  | undecodable (fault : String)
  /-- The file holds a scalar that is not what it was announced to be. -/
  | misfit (m : Yaml.Misfit)
  deriving Repr

/-- The step to a value as a text. -/
def Step.text : Step → String
  | .key s => s
  | .index n => toString n

/-- The issues as they are reported together. -/
def issuesText (is : List Issue) : String :=
  let head :=
    toString is.length ++ " validation error" ++ (if is.length = 1 then "" else "s")
      ++ " for LatexToolsConfig"
  let shown (i : Issue) : String :=
    ".".intercalate (i.place.map Step.text) ++ "\n  " ++ i.problem.message
      ++ " [type=" ++ i.problem.code ++ "]"
  "\n".intercalate (head :: is.map shown)

namespace LoadProblem

/-- The kind of failure that a problem is. -/
def kind : LoadProblem → String
  | homeless => "RuntimeError"
  | unforeseen e => e.kind
  | undecodable _ => "UnicodeDecodeError"
  | misfit m => m.kind
  | _ => "ConfigurationError"

/-- The problem in words. -/
def message : LoadProblem → String
  | notFound p => "Configuration file not found: " ++ p.str
  | unreadable p _ => "Unable to read configuration file " ++ p.str
  | malformed p _ _ => "Unable to read configuration file " ++ p.str
  | notMapping p => "Configuration file " ++ p.str ++ " must contain a mapping"
  | invalid p is => "Invalid configuration in " ++ p.str ++ ": " ++ issuesText is
  | homeless => "Could not determine home directory."
  | unforeseen e => e.reason
  | undecodable fault => fault
  | misfit _ => ""

/-- Whether the problem is reported as one of the configuration. Others are not foreseen. -/
def isForeseen : LoadProblem → Bool
  | homeless => false
  | unforeseen _ => false
  | undecodable _ => false
  | misfit _ => false
  | _ => true

/-- What caused a problem, the cause of the cause after it. -/
def causes : LoadProblem → List Failure
  | unreadable p e => [.ofFile e p.str]
  | malformed _ breach document =>
    ⟨breach.rule.kind, .message (Text.str (breach.text document)), none, none⟩
      :: (breach.cause.map fun (kind, words) => ⟨kind, .message words, none, none⟩).toList
  | invalid _ is => [⟨"ValidationError", .message (issuesText is), none, none⟩]
  | _ => []

/-- The problem with what caused it. -/
def failures (p : LoadProblem) : List Failure :=
  Failure.linked 0 (⟨p.kind, .message p.message, none, none⟩ :: p.causes)

end LoadProblem

/-- The name of the variable that names a configuration file. -/
def fileVariable : String := "LATEXTOOLS_CONFIG"

/-- The name of the variable that names the directory of all configurations. -/
def directoryVariable : String := "XDG_CONFIG_HOME"

/-- The directory of all configurations of the user. -/
def directory? (env : Environment) : Option Path :=
  match env.nonempty? directoryVariable with
  | some d => env.expand? (.ofString d)
  | none => env.home?.map (·.child ".config".toList)

/-- The user's own configuration file. -/
def defaultPath? (env : Environment) : Option Path :=
  (directory? env).map fun d => (d.child "latextools".toList).child "config.yml".toList

/-- The file to be read: the one given, the one that the environment names, or the user's own file
if it is there. -/
def candidate (files : Files) (env : Environment) (given : Option Path) :
    Except LoadProblem (Option Path) :=
  let expanded (p : Path) : Except LoadProblem (Option Path) :=
    (env.expand? p).elim (.error .homeless) fun p => .ok (some p)
  match given, env.nonempty? fileVariable with
  | some p, _ => expanded p
  | none, some v => expanded (.ofString v)
  | none, none =>
    match defaultPath? env with
    | none => .error .homeless
    | some p =>
      match files.probe p with
      | .ok there => .ok (if there then some p else none)
      | .error e => .error (.unforeseen e)

/-- The value that the text of a configuration file holds. -/
def parse (path : Path) (t : Text) : Except LoadProblem Value :=
  match Yaml.load t with
  | .ok v => .ok v
  | .error (.malformed b) => .error (.malformed path b t)
  | .error (.misfit m) => .error (.misfit m)

/-- The configuration that a value in a file describes; nothing describes the defaults. -/
def fromValue (path : Path) : Value → Except LoadProblem Config
  | .null => .ok {}
  | .map es => (ofValue (.map es)).mapError (.invalid path)
  | _ => .error (.notMapping path)

/-- The configuration in a file. -/
def readFrom (files : Files) (path : Path) : Except LoadProblem Config := do
  if !(← (files.probe path).mapError .unforeseen) then throw (.notFound path)
  let data ← (files.read path).mapError (.unreadable path)
  match Text.Utf8.decode? data.toList with
  | none => throw (.undecodable (Text.Utf8.faultText data.toList))
  | some t => fromValue path (← parse path (Text.unifyBreaks t))

/-- The configuration. -/
def load (files : Files) (env : Environment) (given : Option Path) : Except LoadProblem Config := do
  match ← candidate files env given with
  | none => return {}
  | some p => readFrom files p

end Typeset.Config
