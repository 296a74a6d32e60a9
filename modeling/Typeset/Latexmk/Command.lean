import Typeset.Files
import Typeset.Latexmk.MagicComment

/-!
# Calling latexmk

The words of the call that compiles a document, and the files that the call leaves beside it. The
engine is the one that the document asks for, or else the configured one, or else pdflatex.

## Main definitions

* `Latexmk.detect`, `Latexmk.chooseEngine`: the engine of a document
* `Latexmk.command`: the words of a call
* `Latexmk.logPath?`, `Latexmk.pdfPath?`: what a call leaves behind

## Main results

* `Latexmk.command_getLast?`: the file name comes last
-/

namespace Typeset.Latexmk

/-- The option that selects an engine. -/
def engineFlag : Engine → String
  | .pdflatex => "-pdf"
  | .xelatex => "-xelatex"
  | .lualatex => "-lualatex"

/-- The option that selects the engine with a name; without such an engine it is pdflatex. -/
def flagOfName (name : Text) : String := engineFlag ((Engine.ofName? name).getD .pdflatex)

/-- The engine that a document asks for. A document that cannot be read asks for none, but its path
has to be one that something can have. -/
def detect (files : Files) (tex : Path) : Except FileError (Option Engine) :=
  match files.readText tex with
  | .ok t => .ok (MagicComment.engine? t)
  | .error e => if e.isRefusal then .ok none else .error e

/-- The engine for a document, given the one that it asks for. -/
def chooseEngine (detected : Option Engine) (o : BuildOptions) : Engine :=
  (detected <|> o.engine).getD .pdflatex

/-- A word of a call that depends on an option. -/
def optional (wanted : Bool) (word : String) : List String := if wanted then [word] else []

/-- The words of the call that compiles the document `tex` from its directory with an engine. -/
def command (engine : Engine) (o : BuildOptions) (tex : Path) : List String :=
  ["latexmk", engineFlag engine] ++ optional o.bibtex "-bibtex"
    ++ ["-interaction=nonstopmode", "-file-line-error"] ++ optional o.synctex "-synctex=1"
    ++ optional o.shellEscape "-shell-escape" ++ optional o.cleanAux "-c"
    ++ [Text.str tex.name]

/-- The log of a document; a path without a file name has none. -/
def logPath? (tex : Path) : Option Path := tex.withSuffix? ".log".toList

/-- The finished document; a path without a file name has none. -/
def pdfPath? (tex : Path) : Option Path := tex.withSuffix? ".pdf".toList

theorem command_getLast? (engine : Engine) (o : BuildOptions) (tex : Path) :
    (command engine o tex).getLast? = some (Text.str tex.name) := by
  unfold command
  rw [List.getLast?_append]
  rfl

end Typeset.Latexmk
