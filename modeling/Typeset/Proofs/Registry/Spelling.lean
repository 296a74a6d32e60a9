import Typeset.Proofs.Events.Confined
import Typeset.Proofs.Path.Written
import Typeset.Proofs.Registry.Change
import Typeset.Registry.Address

/-!
# Two spellings of a document

The registry takes a text as it is, but a path as the path is written, which need not be the text
that the path was read from. So a text and the path that it denotes stand for one document just if
the text is written as paths are: slashes for the anchor, and components that are neither empty nor
single dots, with one slash between any two. Then calls may name the document either way, and
nothing at all shows which way it was. If not, there are two documents, and no call by one spelling
shows in the other.

## Main definitions

* `Registry.Address.spellings`: the two ways to name a document by a text
* `Registry.Call.respell`: a call that names the document by its path
* `Registry.called`: the registry as it is called
* `Registry.answers`: what is told about a document

## Main results

* `Path.str_ofString_eq_iff`: the texts that are written as paths are
* `Registry.called_respell`: the calls of such texts
* `Registry.shares_record_iff`: which texts share the record of their path
-/

namespace Typeset

/-- A text is written as its path is if it is written as some path is. -/
theorem Path.str_ofString_eq_iff {s : String} :
    (Path.ofString s).str = s ↔ ∃ p : Path, p.IsClean ∧ p.str = s := by
  constructor
  · intro h
    exact ⟨.ofString s, isClean_ofText _, h⟩
  · rintro ⟨p, hp, rfl⟩
    have htext : p.str.toList = p.text := String.toList_ofList
    rw [ofString, htext, ofText_text hp]

namespace Registry

open Events (Action Hub Machine)

variable {ρ : Type} {s : String}

/-! ## Calls in another spelling -/

/-- The path that a text denotes in the place of the text `s`. -/
def Address.respell (s : String) : Address → Address
  | text t => if t = s then path (.ofString s) else text t
  | path p => path p

/-- The two ways to name a document by a text. -/
def Address.spellings (s : String) : List Address := [text s, path (.ofString s)]

theorem Address.mem_spellings_iff {a : Address} :
    a ∈ spellings s ↔ a = text s ∨ a = path (.ofString s) := by simp [spellings]

namespace Call

/-- A call that names a document by its path where it was named by the text `s`. Diagnostics are
passed on and leave nothing behind. -/
def respell (s : String) : Call → Call
  | start a => start (a.respell s)
  | finish a output given => finish (a.respell s) output given
  | fail a error output => fail (a.respell s) error output
  | reset a => reset (a.map (Address.respell s))
  | publish a ds => publish a ds
  | dispose => dispose

/-- The document that a call is on, as the caller names it. -/
def document? : Call → Option Address
  | start a => some a
  | finish a _ _ => some a
  | fail a _ _ => some a
  | reset a => a
  | publish a _ => some a
  | dispose => none

theorem file?_operation (c : Call) : c.operation.file? = c.document?.map Address.key := by
  cases c <;> rfl

end Call

/-- The registry as it is called. Calls that are marked are changed first. -/
def called (change : Call → Call) : Machine Timed (Call × Bool) Topic Notice :=
  ⟨fun c => Timed.perform (if c.2 then change c.1 else c.1).operation⟩

/-- A registry that has not been called yet, and that nobody follows. -/
def uncalled (clock : Clock) : Hub Timed (Call × Bool) Topic Notice ρ :=
  { state := { clock := clock } }

/-- Whether a document is being built, its status and its error, and the number of the documents
that are tracked. -/
def answers (r : Registry) (a : Address) : Bool × BuildStatus × Option String × Nat :=
  (r.isBuilding a.key, (r.status a.key).status, (r.status a.key).error, r.overview.files.length)

/-! ## Texts that are written as paths are -/

theorem key_respell (hs : (Path.ofString s).str = s) (a : Address) :
    (a.respell s).key = a.key := by
  cases a with
  | path p => rfl
  | text t =>
    rw [Address.respell]
    split
    · next ht =>
      subst ht
      exact hs
    · rfl

theorem operation_respell (hs : (Path.ofString s).str = s) (c : Call) :
    (c.respell s).operation = c.operation := by
  cases c with
  | start a => exact congrArg Operation.start (key_respell hs a)
  | finish a output given => exact congrArg (Operation.finish · output given) (key_respell hs a)
  | fail a error output => exact congrArg (Operation.fail · error output) (key_respell hs a)
  | reset a =>
    cases a with
    | none => rfl
    | some a => exact congrArg (Operation.reset ∘ some) (key_respell hs a)
  | publish | dispose => rfl

/-- The registry does the same if some of the calls name the document by its path. A machine is what
it performs, so the runs need not be compared. -/
theorem called_respell (hs : (Path.ofString s).str = s) : called (Call.respell s) = called id := by
  have hperform : ∀ c : Call × Bool, (if c.2 then c.1.respell s else c.1).operation =
      (if c.2 then id c.1 else c.1).operation := by
    rintro ⟨c, marked⟩
    cases marked with
    | false => rfl
    | true => exact operation_respell hs c
  exact congrArg Machine.mk (funext fun c => congrArg Timed.perform (hperform c))

/-! ## Other texts -/

/-- Calls that name a document one way leave alone what goes by another text. -/
theorem find?_foldl_calls_of_ne {a b : Address} (hab : b.key ≠ a.key) {cs : List Call}
    (hcs : ∀ c ∈ cs, c.document? = some a) (t : Timed) :
    (cs.foldl (fun t c => (t.perform c.operation).1) t).registry.find? b.key =
      t.registry.find? b.key := by
  have hoperations : cs.foldl (fun t c => (t.perform c.operation).1) t =
      (cs.map Call.operation).foldl (fun t op => (t.perform op).1) t := by rw [List.foldl_map]
  rw [hoperations]
  refine Timed.find?_foldl_perform_of_ne (fun op hop => ?_) hab t
  obtain ⟨c, hc, rfl⟩ := List.mem_map.mp hop
  rw [Call.file?_operation, hcs c hc, Option.map_some]

/-- A build that was begun under a text is known under no other one. -/
theorem isBuilding_after_start (clock : Clock) (s other : String) :
    (Hub.runEach (called (Call.respell s)) [.operate (.start (.text s), false)]
      (uncalled clock : Hub Timed (Call × Bool) Topic Notice ρ)).state.registry.isBuilding other =
      decide (other = s) := by
  have hrecords : (Hub.runEach (called (Call.respell s)) [.operate (.start (.text s), false)]
      (uncalled clock : Hub Timed (Call × Bool) Topic Notice ρ)).state.registry.records =
      [(s, .building clock.read.1)] := by
    unfold Hub.runEach
    rfl
  rw [isBuilding, find?, hrecords]
  by_cases h : other = s
  · simp [h, Record.isBuilding]
  · simp [h, List.lookup_cons, beq_eq_false_iff_ne.mpr h]

/-- **Which texts share the record of their path.** A text is written as a path is if and only if it
makes no difference to any answer about the document, in any run, which of the calls and of the
questions name it by the path that the text denotes. Then it makes no difference to the run at all,
listeners and notices included. Any other text stands for a document of its own: calls that name the
document one way leave the record alone that the other way of naming it leads to. -/
theorem shares_record_iff (ρ : Type) (s : String) :
    ((∃ p : Path, p.IsClean ∧ p.str = s) ↔
      ∀ (clock : Clock) (actions : List (Action (Call × Bool) Topic Notice ρ)),
        ∀ a ∈ Address.spellings s,
        answers (Hub.runEach (called (Call.respell s)) actions (uncalled clock)).state.registry a =
          answers (Hub.runEach (called id) actions (uncalled clock)).state.registry (.text s)) ∧
      ((∃ p : Path, p.IsClean ∧ p.str = s) →
        ∀ (clock : Clock) (actions : List (Action (Call × Bool) Topic Notice ρ)),
          Hub.runEach (called (Call.respell s)) actions (uncalled clock) =
            Hub.runEach (called id) actions (uncalled clock)) ∧
      ((¬ ∃ p : Path, p.IsClean ∧ p.str = s) →
        ∀ a ∈ Address.spellings s, ∀ b ∈ Address.spellings s, a ≠ b →
          ∀ (t : Timed) (cs : List Call), (∀ c ∈ cs, c.document? = some a) →
            (cs.foldl (fun t c => (t.perform c.operation).1) t).registry.find? b.key =
              t.registry.find? b.key) := by
  rw [← Path.str_ofString_eq_iff]
  refine ⟨⟨fun hs clock actions a ha => ?_, fun hsame => ?_⟩, fun hs clock actions => ?_,
    fun hs a ha b hb hab t cs hcs => ?_⟩
  · have hkey : a.key = s := by
      rcases Address.mem_spellings_iff.mp ha with rfl | rfl
      · rfl
      · exact hs
    rw [called_respell hs, answers, hkey]
    rfl
  · have hstart := hsame ⟨[], 0⟩ [.operate (.start (.text s), false)]
    have htext := congrArg Prod.fst (hstart (.text s) (Address.mem_spellings_iff.mpr (.inl rfl)))
    have hpath := congrArg Prod.fst
      (hstart (.path (.ofString s)) (Address.mem_spellings_iff.mpr (.inr rfl)))
    have heq := hpath.trans htext.symm
    simp only [answers, isBuilding_after_start] at heq
    exact of_decide_eq_true (heq.trans (decide_eq_true rfl))
  · rw [called_respell hs]
  · refine find?_foldl_calls_of_ne ?_ hcs t
    rcases Address.mem_spellings_iff.mp ha with rfl | rfl <;>
      rcases Address.mem_spellings_iff.mp hb with rfl | rfl
    · exact absurd rfl hab
    · exact hs
    · exact Ne.symm hs
    · exact absurd rfl hab

/-- One of the texts is written as its path is, and the other is not. -/
theorem shares_record_of_written :
    (∀ (clock : Clock) (actions : List (Action (Call × Bool) Topic Notice Unit)),
        Hub.runEach (called (Call.respell "docs/../a.tex")) actions (uncalled clock) =
          Hub.runEach (called id) actions (uncalled clock)) ∧
      ∀ t : Timed,
        let reset := Call.reset (some (.path (.ofString "./a.tex")))
        (t.perform reset.operation).1.registry.find? "./a.tex" = t.registry.find? "./a.tex" := by
  have hno : ¬ ∃ p : Path, p.IsClean ∧ p.str = "./a.tex" := by
    rw [← Path.str_ofString_eq_iff]
    decide
  obtain ⟨-, hwritten, -⟩ := shares_record_iff Unit "docs/../a.tex"
  obtain ⟨-, -, happart⟩ := shares_record_iff Unit "./a.tex"
  refine ⟨hwritten ⟨.ofString "docs/../a.tex", Path.isClean_ofText _, by decide⟩, fun t => ?_⟩
  exact happart hno (.path (.ofString "./a.tex")) (by simp [Address.spellings]) (.text "./a.tex")
    (by simp [Address.spellings]) (by simp) t
    [.reset (some (.path (.ofString "./a.tex")))] (by simp [Call.document?])

/-- The build of a document that was begun under one spelling is ended under another. It is under
way for ever, and there are two documents. -/
theorem split_record :
    let s := "./a.tex"
    let actions : List (Action (Call × Bool) Topic Notice Unit) :=
      [.operate (.start (.text s), false), .operate (.finish (.text s) "" none, true)]
    let clock : Clock := ⟨[1, 2], 0⟩
    let said := (Hub.runEach (called id) actions (uncalled clock)).state.registry
    let respelt := (Hub.runEach (called (Call.respell s)) actions (uncalled clock)).state.registry
    answers said (.text s) = (false, .success, none, 1) ∧
      answers respelt (.text s) = (true, .building, none, 2) ∧
      answers respelt (.path (.ofString s)) = (false, .success, none, 2) := by
  intro s actions clock said respelt
  unfold said respelt Hub.runEach
  decide +kernel

end Registry

end Typeset
