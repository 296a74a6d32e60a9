import Typeset.Command.Run

/-!
# The program

The outer layer: it takes down the part of the file system that a command line is about, has the
command line carried out on that, and then does to the file system what was done to the files. No
tool is started from here, so every build is refused.
-/

namespace Typeset.Program

/-- The variables that matter. -/
def variableNames : List String := ["HOME", Config.directoryVariable, Config.fileVariable]

/-- The variables that matter and are set. -/
def environment : IO Environment := do
  let mut bindings := []
  for name in variableNames do
    if let some value ← IO.getEnv name then bindings := bindings ++ [(name, value)]
  return { bindings := bindings }

/-- The texts in a word that may be paths: the word, and what stands behind an equals sign. -/
def textsIn (word : Text) : List Text := word :: (Command.cutValue word).2.toList

/-- The paths that a command line is about. -/
def pathsOf (env : Environment) (words : List Text) : List Path :=
  let named := (words.flatMap textsIn).map Path.ofText
  let configured := (env.nonempty? Config.fileVariable).toList.map Path.ofString
  let own := (Config.defaultPath? env).toList
  let settings := env.home?.bind fun home => (Latexmk.Settings.path {} false home).toOption
  (named ++ configured).filterMap env.expand? ++ named ++ own ++ settings.toList

/-- Takes down what is at a path and beside it. Files beside it are taken down without contents. -/
def takeDown (files : Files) (p : Path) : IO Files := do
  let directory : Path := ⟨.root, files.cwd⟩
  let p := directory.canonical p
  let here ← IO.currentDir
  let mut files := files
  if ← (here / p.parent.str).isDir then
    for e in ← (here / p.parent.str).readDir do
      let place := p.parent.parts ++ [e.fileName.toList]
      if (files.node? place).isNone then
        let n : Node := if ← e.path.isDir then .directory else .file .empty
        files := files.insert place n
  if (← (here / p.str).pathExists) && !(← (here / p.str).isDir) then
    files := files.insert p.parts (.file (← IO.FS.readBinFile (here / p.str)))
  return files

/-- Does to the file system what was done to the files. -/
def apply (before after : Files) : IO Unit := do
  for (place, n) in before.nodes do
    if !n.isDirectory && (after.node? place).isNone then
      IO.FS.removeFile (Path.mk .root place).str
  for (place, n) in after.nodes do
    if let .file data := n then
      if (before.node? place).isNone then IO.FS.writeBinFile (Path.mk .root place).str data

/-- What happens while documents are built: no tool is found. -/
def world (files : Files) : Build.World where
  before := files
  after := files
  refusal _ := some ⟨.missing, "latexmk"⟩
  exit _ := 0
  elapsed _ := 0
  readings := []

/-- The terminal behind a stream, if there is one. -/
def screen (stream : IO.FS.Stream) : IO (Option Console.Screen) := do
  if ← stream.isTty then return some {} else return none

/-- Carries a command line out. -/
def run (args : List String) : IO UInt32 := do
  let words := args.map String.toList
  let env ← environment
  let cwd := (Path.ofString (← IO.currentDir).toString).parts
  let empty : Files := { cwd := cwd }
  let files ← (pathsOf env words).foldlM takeDown (empty.insert cwd .directory)
  let stdout ← IO.getStdout
  let stderr ← IO.getStderr
  let r := Command.run
    { files := files, environment := env, results := ← screen stdout, remarks := ← screen stderr,
      world := fun _ => world files } words
  apply files r.files
  stdout.putStr (Text.str r.output.results)
  stderr.putStr (Text.str r.output.remarks)
  return r.exit.toUInt32

end Typeset.Program

/-- The program. -/
def main (args : List String) : IO UInt32 := Typeset.Program.run args
