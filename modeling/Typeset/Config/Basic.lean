import Typeset.Data.Value

/-!
# Configuration

What a user may configure: how documents are compiled, which files a cleanup takes away, and which
diagnostics reach a linter.

## Main definitions

* `Engine`: the engines that can compile a document
* `BuildOptions`, `CleanOptions`, `LintOptions`, `Config`
* `Config.record`: a configuration as data

## Main results

* `Engine.ofName?_name`: an engine is known by its name
-/

namespace Typeset

open Data (Value)

/-- The engines that can compile a document. -/
inductive Engine where
  | pdflatex
  | xelatex
  | lualatex
  deriving DecidableEq, Repr

namespace Engine

/-- All engines. -/
def all : List Engine := [pdflatex, xelatex, lualatex]

/-- The name of an engine. -/
def name : Engine → String
  | pdflatex => "pdflatex"
  | xelatex => "xelatex"
  | lualatex => "lualatex"

theorem name_mem (e : Engine) : e.name ∈ ["pdflatex", "xelatex", "lualatex"] := by
  cases e <;> decide

/-- The engine with the given name. -/
def ofName? (name : Text) : Option Engine := all.find? fun e => e.name.toList = name

theorem ofName?_name (e : Engine) : ofName? e.name.toList = some e := by cases e <;> decide

theorem ofName?_eq_some_iff {t : Text} {e : Engine} : ofName? t = some e ↔ t = e.name.toList := by
  constructor
  · intro h
    have hname := List.find?_some h
    exact (of_decide_eq_true hname).symm
  · rintro rfl
    exact ofName?_name e

end Engine

/-- How documents are compiled. Without an engine the document or the default decides. -/
structure BuildOptions where
  engine : Option Engine := none
  synctex : Bool := true
  shellEscape : Bool := false
  cleanAux : Bool := false
  bibtex : Bool := true
  deriving DecidableEq, Repr

/-- The patterns of the auxiliary files that a cleanup removes unless configured otherwise. -/
def defaultAuxiliaries : List String :=
  ["aux", "bbl", "bcf", "blg", "fdb_latexmk", "fls", "lof", "log", "lot", "nav", "out", "run.xml",
    "snm", "synctex.gz", "toc", "\x7bbasename\x7d-blx.bib"]

/-- Which files a cleanup takes away. -/
structure CleanOptions where
  auxiliaries : List String := defaultAuxiliaries
  deriving DecidableEq, Repr

/-- Which diagnostics reach a linter, and whether they tell their place in the log. -/
structure LintOptions where
  suppressErrors : Bool := false
  suppressWarnings : Bool := false
  suppressInfos : Bool := false
  includeLogRange : Bool := false
  deriving DecidableEq, Repr

/-- The whole configuration. -/
structure Config where
  debug : Bool := false
  build : BuildOptions := {}
  clean : CleanOptions := {}
  lint : LintOptions := {}
  deriving DecidableEq, Repr

/-- The options as data. -/
def BuildOptions.record (o : BuildOptions) : Value :=
  .record
    [("engine", .ofText? (o.engine.map Engine.name)), ("enable_synctex", .bool o.synctex),
      ("shell_escape", .bool o.shellEscape), ("clean_aux_files", .bool o.cleanAux),
      ("bibtex", .bool o.bibtex)]

/-- The options as data. -/
def CleanOptions.record (o : CleanOptions) : Value :=
  .record [("aux_file_extensions", .list (o.auxiliaries.map .text))]

/-- The options as data. -/
def LintOptions.record (o : LintOptions) : Value :=
  .record
    [("suppress_errors", .bool o.suppressErrors), ("suppress_warnings", .bool o.suppressWarnings),
      ("suppress_infos", .bool o.suppressInfos), ("include_log_range", .bool o.includeLogRange)]

/-- The configuration as data. -/
def Config.record (c : Config) : Value :=
  .record
    [("debug", .bool c.debug), ("build", c.build.record), ("clean", c.clean.record),
      ("linter", c.lint.record)]

end Typeset
