import Typeset.Files
import Typeset.Log.Interpreter

/-!
# Logs in files

The diagnostics of a log file. Unless told otherwise, the log belongs to the document of the same
name beside it.

## Main definitions

* `Log.ofFile`: the diagnostics of a log file
-/

namespace Typeset.Log

/-- Why a log file has no diagnostics, not even none. -/
inductive FileProblem where
  | file (error : FileError)
  /-- The path has no file name, so no document belongs to it. -/
  | nameless
  deriving DecidableEq, Repr

/-- The document that a log belongs to by its name. -/
def documentOf? (log : Path) : Option Path := log.withSuffix? ".tex".toList

/-- The diagnostics of a log file; a missing file has none. -/
def ofFile (files : Files) (root : Option Path) (log : Path) :
    Except FileProblem (List Diagnostic) :=
  match files.probe log with
  | .error e => .error (.file e)
  | .ok false => .ok []
  | .ok true =>
    match files.readText log with
    | .error e => .error (.file e)
    | .ok t =>
      match root <|> documentOf? log with
      | none => .error .nameless
      | some root => .ok (read (absolute ⟨.root, files.cwd⟩ root) t).diagnostics

end Typeset.Log
