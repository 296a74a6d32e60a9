import Typeset.Command.Words
import Typeset.Config.Validate
import Typeset.Files

/-!
# Requests

What a command line asks for. The options of the program come first, then the name of a command, and
behind it the options and arguments of the command in any order. Asking for help or for the version
comes before everything else that may be wrong, except for options that cannot be read.

## Main definitions

* `Command.Request`, `Command.Invocation`: what is asked for, and how verbosely
* `Command.UsageError`: what is wrong with a command line
* `Command.Invocation.ofWords`: the request that words make
-/

namespace Typeset.Command

open Config (Overrides)

/-- The options of the program and of its commands. -/
inductive Key where
  | verbose
  | debug
  | version
  | help
  | engine
  | synctex
  | noSynctex
  | shellEscape
  | cleanAux
  | json
  | config
  | root
  | noInfo
  | create
  deriving DecidableEq, Repr

/-- What a command line asks for. -/
inductive Request where
  | help
  | version
  | build (documents : List Path) (overrides : Overrides) (json : Bool) (config : Option Path)
  | parse (log : Path) (root : Option Path) (json noInfo : Bool)
  | clean (document : Path) (config : Option Path)
  | settings (create : Bool)
  deriving DecidableEq, Repr

/-- A request, and how much is to be told of failures. -/
structure Invocation where
  verbosity : Nat := 0
  request : Request
  deriving DecidableEq, Repr

/-- What is wrong with a command line. -/
inductive UsageError where
  /-- There are no words at all. -/
  | nothing
  | option (problem : OptionProblem)
  | missingCommand
  | unknownCommand (name : Text)
  | missingArgument (name : String)
  | extraArgument (word : Text)
  | absent (word : Text)
  | directory (word : Text)
  /-- Nothing can have the path. -/
  | unnameable (word : Text)
  /-- The options for compiling cannot be read with those of the command line in their place. -/
  | overrides (issues : List Config.Issue)
  deriving DecidableEq, Repr

/-- A problem with options in words. -/
def OptionProblem.message : OptionProblem → String
  | unknown name => "No such option: " ++ Text.str name
  | missingValue name => "Option '" ++ Text.str name ++ "' requires an argument."
  | unwantedValue name => "Option '" ++ Text.str name ++ "' does not take a value."

/-- A mistake in words. -/
def UsageError.message : UsageError → String
  | nothing => "Missing command."
  | option p => p.message
  | missingCommand => "Missing command."
  | unknownCommand name => "No such command '" ++ Text.str name ++ "'."
  | missingArgument name => "Missing argument '" ++ name ++ "'."
  | extraArgument word => "Got unexpected extra argument (" ++ Text.str word ++ ")"
  | absent word => "Invalid value: File '" ++ Text.str word ++ "' does not exist."
  | directory word => "Invalid value: File '" ++ Text.str word ++ "' is a directory."
  | unnameable word => "Invalid value: '" ++ Text.str word ++ "' is no path."
  | overrides is =>
    "Invalid value for --engine: " ++ ", ".intercalate (is.map fun i => i.problem.message)

/-! ## Options -/

/-- An option that takes no value. -/
def flag (key : Key) (name : String) : Spec Key := ⟨key, [name.toList], false⟩

/-- An option with a value. -/
def option (key : Key) (names : List String) : Spec Key := ⟨key, names.map String.toList, true⟩

/-- The option that asks for help. -/
def helpSpec : Spec Key := flag .help "--help"

/-- The options of the program. -/
def programSpecs : List (Spec Key) :=
  [⟨.verbose, ["--verbose".toList, "-v".toList], false⟩, flag .debug "--debug",
    flag .version "--version", helpSpec]

/-- The options of the command that builds documents. -/
def buildSpecs : List (Spec Key) :=
  [option .engine ["-e", "--engine"], flag .synctex "--synctex", flag .noSynctex "--no-synctex",
    flag .shellEscape "--shell-escape", flag .cleanAux "--clean-aux", flag .json "--json",
    option .config ["--config"], helpSpec]

/-- The options of the command that reads a log. -/
def parseSpecs : List (Spec Key) :=
  [option .root ["--root"], flag .json "--json", flag .noInfo "--no-info", helpSpec]

/-- The options of the command that sweeps up. -/
def cleanSpecs : List (Spec Key) := [option .config ["--config"], helpSpec]

/-- The options of the command for the settings file. -/
def settingsSpecs : List (Spec Key) := [flag .create "--create", helpSpec]

/-! ## Arguments -/

/-- The path that a word stands for, seen from the working directory. -/
def canonicalPath (files : Files) (word : Text) : Except UsageError Path :=
  let p := Path.ofText word
  if p.isNameable then .ok (Path.canonical ⟨.root, files.cwd⟩ p) else .error (.unnameable word)

/-- The file that a word names. -/
def existingFile (files : Files) (word : Text) : Except UsageError Path := do
  let p ← canonicalPath files word
  match files.find p with
  | .ok (_, .file _) => return p
  | .ok (_, .directory) => throw (.directory word)
  | .error _ => throw (.absent word)

/-- A path that a word stands for and that may lead nowhere, but not to a directory. -/
def noDirectory (files : Files) (word : Text) (p : Path) : Except UsageError Path :=
  match files.find p with
  | .ok (_, .directory) => .error (.directory word)
  | .error .unnameable => .error (.unnameable word)
  | _ => .ok p

/-- The one file that arguments name. -/
def oneFile (files : Files) (name : String) : List Text → Except UsageError Path
  | [] => .error (.missingArgument name)
  | [word] => existingFile files word
  | _ :: word :: _ => .error (.extraArgument word)

/-- The files that arguments name, of which there has to be one. -/
def someFiles (files : Files) (name : String) : List Text → Except UsageError (List Path)
  | [] => .error (.missingArgument name)
  | words => words.mapM (existingFile files)

/-- The arguments of a command that takes none. -/
def noArguments : List Text → Except UsageError Unit
  | [] => .ok ()
  | word :: _ => .error (.extraArgument word)

/-- The configuration file of a command, which may be missing but is no directory. An empty word
leads nowhere, although it is read as the path of the working directory. -/
def configFile? (files : Files) (s : Scan Key) : Except UsageError (Option Path) :=
  match s.value? .config with
  | none => .ok none
  | some word =>
    if word.isEmpty then .ok (some (.ofText word))
    else (noDirectory files word (.ofText word)).map some

/-- The document that a log belongs to, which may be missing but is no directory. -/
def rootFile? (files : Files) (s : Scan Key) : Except UsageError (Option Path) :=
  match s.value? .root with
  | none => .ok none
  | some word => do return some (← noDirectory files word (← canonicalPath files word))

/-! ## Commands -/

/-- What the command line asks for in place of the configured options. -/
def overridesOf (s : Scan Key) : Overrides where
  engine := (s.value? .engine).map Text.str
  synctex := (s.last? [.synctex, .noSynctex]).map (· = .synctex)
  shellEscape := s.has .shellEscape
  cleanAux := s.has .cleanAux

/-- A request to build documents. -/
def buildRequest (files : Files) (s : Scan Key) : Except UsageError Request := do
  let documents ← someFiles files "FILE..." s.arguments
  return .build documents (overridesOf s) (s.has .json) (← configFile? files s)

/-- A request to read a log. -/
def parseRequest (files : Files) (s : Scan Key) : Except UsageError Request := do
  let log ← oneFile files "LOG" s.arguments
  return .parse log (← rootFile? files s) (s.has .json) (s.has .noInfo)

/-- A request to sweep up. -/
def cleanRequest (files : Files) (s : Scan Key) : Except UsageError Request := do
  let document ← oneFile files "TEX" s.arguments
  return .clean document (← configFile? files s)

/-- A request for the settings file. -/
def settingsRequest (s : Scan Key) : Except UsageError Request := do
  noArguments s.arguments
  return .settings (s.has .create)

/-- The options among words, and the words that are none. -/
def scanOptions (specs : List (Spec Key)) (mixed : Bool) (words : List Text) :
    Except UsageError (Scan Key) :=
  (scan specs mixed words).mapError .option

/-- The request of a command, unless its words ask for help. -/
def requestOf (specs : List (Spec Key)) (read : Scan Key → Except UsageError Request)
    (words : List Text) : Except UsageError Request := do
  let s ← scanOptions specs true words
  if s.has .help then return .help else read s

/-- The request that the words behind the name of a command make. -/
def Request.ofWords (files : Files) (name : Text) (words : List Text) :
    Except UsageError Request :=
  match Text.str name with
  | "build" => requestOf buildSpecs (buildRequest files) words
  | "parse" => requestOf parseSpecs (parseRequest files) words
  | "clean" => requestOf cleanSpecs (cleanRequest files) words
  | "latexmkrc" => requestOf settingsSpecs settingsRequest words
  | _ => .error (.unknownCommand name)

/-- The request that the words of a command line make. -/
def Invocation.ofWords (files : Files) (words : List Text) : Except UsageError Invocation := do
  let s ← scanOptions programSpecs false words
  match s.first? [.version, .help], s.arguments with
  | some .version, _ => return { request := .version }
  | some _, _ => return { request := .help }
  | none, [] => throw (if words.isEmpty then .nothing else .missingCommand)
  | none, name :: words =>
    return { verbosity := s.count .verbose, request := ← Request.ofWords files name words }

end Typeset.Command
