import Typeset.Command.Run
import Typeset.Proofs.Yaml.Misfit

/-!
# Loading a configuration fails

Most of what may be wrong with a configuration file is reported as a problem of the configuration.
There are four ways for loading to go astray, and no others: the path depends on a home that there
is not, the path is too long to be looked at, the file holds bytes that are no text, or its text is
a document with a misfit.

## Main definitions

* `Config.sought?`: the path of the file to be read
* `Config.Astray`: the ways of failing that nobody foresees
* `Config.Strays`: a step fails in a way that is no problem of the configuration

## Main results

* `Config.strays_load_iff_astray`: loading fails in these ways and in no others
* `Config.withConfig_cases`: what a command does about it
* `Config.load_foreseen_iff`: when the configuration is loaded or its problem is reported
-/

namespace Typeset.Config

variable {files : Files} {env : Environment} {given : Option Path} {path : Path}

/-! ## The file to be read -/

/-- The path that is named by the caller, or else by the environment. -/
def named? (env : Environment) (given : Option Path) : Option Path :=
  given.or ((env.nonempty? fileVariable).map .ofString)

/-- The path of the file to be read; the user's own file may be missing. -/
def sought? (env : Environment) (given : Option Path) : Option Path :=
  match named? env given with
  | some p => env.expand? p
  | none => defaultPath? env

/-- The ways of failing that nobody foresees. -/
inductive Astray (files : Files) (env : Environment) (given : Option Path) : Prop where
  /-- The path depends on a home that there is not. -/
  | homeless (h : sought? env given = none)
  /-- The path is too long to be looked at. -/
  | tooLong {path : Path} (hpath : sought? env given = some path)
      (h : files.probe path = .error .nameTooLong)
  /-- The bytes are no text. -/
  | undecodable {path : Path} {data : ByteArray} (hpath : sought? env given = some path)
      (hdata : files.read path = .ok data) (h : Text.Utf8.decode? data.toList = none)
  /-- The text is a document with a misfit. -/
  | misfit {path : Path} {data : ByteArray} {t : Text} {m : Yaml.Misfit}
      (hpath : sought? env given = some path) (hdata : files.read path = .ok data)
      (ht : Text.Utf8.decode? data.toList = some t)
      (h : Yaml.load (Text.unifyBreaks t) = .error (.misfit m))

theorem candidate_eq (files : Files) (env : Environment) (given : Option Path) :
    candidate files env given =
      match sought? env given with
      | none => .error .homeless
      | some p =>
        if (named? env given).isSome then .ok (some p)
        else
          match files.probe p with
          | .ok there => .ok (if there then some p else none)
          | .error e => .error (.unforeseen e) := by
  unfold candidate sought? named?
  cases given with
  | some p =>
    dsimp only [Option.or]
    cases env.expand? p <;> rfl
  | none =>
    cases env.nonempty? fileVariable with
    | some v =>
      dsimp only [Option.or, Option.map]
      cases env.expand? (.ofString v) <;> rfl
    | none => rfl

/-! ## The ways of failing -/

theorem kind_eq_iff (p : LoadProblem) : p.kind = "ConfigurationError" ↔ p.isForeseen = true := by
  cases p with
  | unforeseen e => cases e <;> simp [LoadProblem.kind, LoadProblem.isForeseen, FileError.kind]
  | misfit m => cases m <;> simp [LoadProblem.kind, LoadProblem.isForeseen, Yaml.Misfit.kind]
  | _ => simp [LoadProblem.kind, LoadProblem.isForeseen]

/-- What can be read is there. -/
theorem probe_of_read {data : ByteArray} (h : files.read path = .ok data) :
    files.probe path = .ok true := by
  unfold Files.read at h
  unfold Files.probe
  cases hfind : files.find path with
  | ok entry => rfl
  | error e =>
    rw [hfind] at h
    cases h

theorem eq_nameTooLong_of_probe {e : FileError} (h : files.probe path = .error e) :
    e = .nameTooLong := by
  unfold Files.probe at h
  split at h <;> cases h
  rfl

theorem isForeseen_of_fromValue {v : Data.Value} {p : LoadProblem}
    (h : fromValue path v = .error p) : p.isForeseen = true := by
  unfold fromValue at h
  split at h
  · cases h
  · next es =>
    cases hconfig : ofValue (.map es) with
    | ok c =>
      rw [hconfig] at h
      cases h
    | error is =>
      rw [hconfig] at h
      cases h
      rfl
  · cases h
    rfl

/-- Something fails in a way that is no problem of the configuration. -/
def Strays (x : Except LoadProblem Config) : Prop := ∃ p, x = .error p ∧ p.isForeseen = false

theorem strays_error_iff {p : LoadProblem} : Strays (.error p) ↔ p.isForeseen = false := by
  simp [Strays]

theorem not_strays_iff {x : Except LoadProblem Config} :
    ¬Strays x ↔ (∃ c, x = .ok c) ∨ ∃ p, x = .error p ∧ p.kind = "ConfigurationError" := by
  cases x with
  | ok c => simp [Strays]
  | error p => simp [strays_error_iff, kind_eq_iff]

theorem strays_parse_iff {t : Text} :
    Strays (parse path t >>= fromValue path) ↔ ∃ m, Yaml.load t = .error (.misfit m) := by
  unfold parse
  cases hload : Yaml.load t with
  | ok v =>
    refine ⟨fun ⟨p, hp, hforeseen⟩ => ?_, nofun⟩
    rw [isForeseen_of_fromValue hp] at hforeseen
    cases hforeseen
  | error problem =>
    cases problem with
    | malformed b => exact ⟨nofun, nofun⟩
    | misfit m => exact ⟨fun _ => ⟨m, rfl⟩, fun _ => ⟨_, rfl, rfl⟩⟩

theorem readFrom_of_read {data : ByteArray} (h : files.read path = .ok data) :
    readFrom files path =
      match Text.Utf8.decode? data.toList with
      | none => .error (.undecodable (Text.Utf8.faultText data.toList))
      | some t => parse path (Text.unifyBreaks t) >>= fromValue path := by
  unfold readFrom
  rw [probe_of_read h, h]
  rfl

/-- A file that is missing or cannot be read is a problem of the configuration. -/
theorem strays_readFrom_iff : Strays (readFrom files path) ↔
    (∃ e, files.probe path = .error e) ∨ ∃ data, files.read path = .ok data ∧
      (Text.Utf8.decode? data.toList = none ∨ ∃ t, Text.Utf8.decode? data.toList = some t ∧
        ∃ m, Yaml.load (Text.unifyBreaks t) = .error (.misfit m)) := by
  cases hread : files.read path with
  | ok data =>
    rw [readFrom_of_read hread, probe_of_read hread]
    cases ht : Text.Utf8.decode? data.toList with
    | none => simp [strays_error_iff, LoadProblem.isForeseen, ht]
    | some t => simp [strays_parse_iff, ht]
  | error e =>
    unfold readFrom
    rw [hread]
    cases files.probe path with
    | error e => exact ⟨fun _ => .inl ⟨e, rfl⟩, fun _ => ⟨_, rfl, rfl⟩⟩
    | ok there =>
      have hforeseen {p : LoadProblem} (hp : p.isForeseen = true) : ¬Strays (.error p) := by
        simp [strays_error_iff, hp]
      cases there with
      | false => exact ⟨fun h => absurd h (hforeseen rfl), nofun⟩
      | true => exact ⟨fun h => absurd h (hforeseen rfl), nofun⟩

/-- The user's own file is looked at once more before it is read. -/
theorem strays_load_iff : Strays (load files env given) ↔
    sought? env given = none ∨ ∃ p, sought? env given = some p ∧ Strays (readFrom files p) := by
  unfold load
  rw [candidate_eq]
  cases sought? env given with
  | none => exact ⟨fun _ => .inl rfl, fun _ => ⟨_, rfl, rfl⟩⟩
  | some p =>
    simp only [reduceCtorEq, false_or, Option.some.injEq, exists_eq_left']
    split
    · exact Iff.rfl
    · cases hprobe : files.probe p with
      | error e =>
        exact ⟨fun _ => strays_readFrom_iff.mpr (.inl ⟨e, hprobe⟩), fun _ => ⟨_, rfl, rfl⟩⟩
      | ok there =>
        cases there with
        | true => exact Iff.rfl
        | false =>
          refine ⟨nofun, ?_⟩
          intro h
          obtain ⟨e, he⟩ | ⟨data, hdata, -⟩ := strays_readFrom_iff.mp h
          · cases hprobe.symm.trans he
          · cases hprobe.symm.trans (probe_of_read hdata)

theorem strays_load_iff_astray : Strays (load files env given) ↔ Astray files env given := by
  rw [strays_load_iff]
  constructor
  · rintro (h | ⟨p, hp, h⟩)
    · exact .homeless h
    · obtain ⟨e, he⟩ | ⟨data, hdata, ht | ⟨t, ht, m, hm⟩⟩ := strays_readFrom_iff.mp h
      · exact .tooLong hp (eq_nameTooLong_of_probe he ▸ he)
      · exact .undecodable hp hdata ht
      · exact .misfit hp hdata ht hm
  · rintro (h | ⟨hp, he⟩ | ⟨hp, hdata, ht⟩ | ⟨hp, hdata, ht, hm⟩)
    · exact .inl h
    · exact .inr ⟨_, hp, strays_readFrom_iff.mpr (.inl ⟨_, he⟩)⟩
    · exact .inr ⟨_, hp, strays_readFrom_iff.mpr (.inr ⟨_, hdata, .inl ht⟩)⟩
    · exact .inr ⟨_, hp, strays_readFrom_iff.mpr (.inr ⟨_, hdata, .inr ⟨_, ht, _, hm⟩⟩)⟩

/-- A command goes on with the configuration, or it ends with the message about its problem, or, if
loading goes astray, without a word of its own. -/
theorem withConfig_cases (s : Command.Surroundings) (given : Option Path) (verbosity : Nat)
    (next : Config → Command.Result) :
    (∃ c, load s.files s.environment given = .ok c ∧
      Command.withConfig s verbosity given next = next c) ∨
    (∃ p, load s.files s.environment given = .error p ∧ p.kind = "ConfigurationError" ∧
      Command.withConfig s verbosity given next =
        { exit := 1
          output := Console.showAlarm verbosity .error (Command.configMessage p) p.failures
          files := s.files }) ∨
    Astray s.files s.environment given ∧
      Command.withConfig s verbosity given next =
        { exit := 1, output := {}, files := s.files } := by
  unfold Command.withConfig
  cases hload : load s.files s.environment given with
  | ok c => exact .inl ⟨c, rfl, rfl⟩
  | error p =>
    cases hp : p.isForeseen with
    | true => exact .inr (.inl ⟨p, rfl, (kind_eq_iff p).mpr hp, if_pos hp⟩)
    | false =>
      refine .inr (.inr ⟨strays_load_iff_astray.mp ?_, ?_⟩)
      · rw [hload]
        exact ⟨p, rfl, hp⟩
      · exact if_neg (Bool.eq_false_iff.mp hp)

/-- **Configurations are loaded, or their problem is reported, unless loading goes astray.** For
documents this means a misfit, which comes from nodes that lie too deep in one another, from an
escape or a version beyond what there is, or from a scalar that is not what it is announced to be. A
command goes on with the configuration or ends with the message about the problem; only where
loading goes astray it ends without a word of its own. The program around the command, which is not
part of the result, may then show the text of the failure. -/
theorem load_foreseen_iff (s : Command.Surroundings) (given : Option Path) :
    (((∃ c, load s.files s.environment given = .ok c) ∨
        ∃ p, load s.files s.environment given = .error p ∧ p.kind = "ConfigurationError") ↔
      ¬Astray s.files s.environment given) ∧
    (∀ t m, Yaml.load t = .error (.misfit m) →
      m = .depth ∨ Yaml.Exceeds t m ∨
        ∃ id g, Yaml.Graph.ofTokens (Yaml.tokens t) = .ok (some (id, g)) ∧ g.HasMisfit m) ∧
    ∀ verbosity next,
      (∃ c, load s.files s.environment given = .ok c ∧
        Command.withConfig s verbosity given next = next c) ∨
      (∃ p, load s.files s.environment given = .error p ∧ p.kind = "ConfigurationError" ∧
        Command.withConfig s verbosity given next =
          { exit := 1
            output := Console.showAlarm verbosity .error (Command.configMessage p) p.failures
            files := s.files }) ∨
      Astray s.files s.environment given ∧
        Command.withConfig s verbosity given next =
          { exit := 1, output := {}, files := s.files } := by
  refine ⟨?_, fun t m => Yaml.misfit_of_load, withConfig_cases s given⟩
  rw [← strays_load_iff_astray, not_strays_iff]

/-- A number that is none is a misfit among the values of a document. -/
theorem load_foreseen_iff_of_number :
    let path : Path := ⟨.root, ["c.yml".toList]⟩
    let text := "debug: !!int x\n"
    let files : Files := { nodes := [(["c.yml".toList], .file text.toUTF8)] }
    let s : Command.Surroundings :=
      { files := files
        world := fun _ =>
          { before := files
            after := files
            refusal := fun _ => none
            exit := fun _ => 0
            elapsed := fun _ => 0
            readings := [] } }
    Yaml.load text.toList = .error (.misfit .value) ∧
      (∃ id g, Yaml.Graph.ofTokens (Yaml.tokens text.toList) = .ok (some (id, g)) ∧
        g.HasMisfit .value) ∧
      ¬((∃ c, load s.files s.environment (some path) = .ok c) ∨
        ∃ p, load s.files s.environment (some path) = .error p ∧
          p.kind = "ConfigurationError") := by
  intro path text files s
  obtain ⟨hiff, hsource, -⟩ := load_foreseen_iff s (some path)
  have hload : Yaml.load text.toList = .error (.misfit .value) := by
    have hproblem : (match Yaml.load text.toList with
        | .ok _ => none
        | .error problem => some problem) = some (Yaml.Problem.misfit .value) := by decide +kernel
    cases h : Yaml.load text.toList with
    | ok v =>
      rw [h] at hproblem
      cases hproblem
    | error problem =>
      rw [h] at hproblem
      rw [Option.some.inj hproblem]
  have hexceeds : ¬Yaml.Exceeds text.toList .value := by
    rintro (⟨htext, -, -, -⟩ | ⟨htext, -, -⟩)
    · have hbackslash : '\\' ∉ text.toList := by decide
      exact hbackslash (by simp [htext])
    · have hpercent : '%' ∉ text.toList := by decide
      exact hpercent (by simp [htext])
  refine ⟨hload, ?_, fun h => ?_⟩
  · obtain hdepth | hexceeds' | hvalue := hsource _ _ hload
    · cases hdepth
    · exact absurd hexceeds' hexceeds
    · exact hvalue
  · have hbreaks : Text.unifyBreaks text.toList = text.toList := by decide +kernel
    have hread : files.read path = .ok text.toUTF8 := rfl
    have hdecode : Text.Utf8.decode? text.toUTF8.toList = some text.toList := by decide +kernel
    have hmisfit : Yaml.load (Text.unifyBreaks text.toList) = .error (.misfit .value) := by
      rw [hbreaks]
      exact hload
    exact hiff.mp h (.misfit rfl hread hdecode hmisfit)

/-- A byte that belongs to no text is not reported as a problem of the configuration. -/
theorem astray_of_bad_byte : ¬∀ (files : Files) (env : Environment) (given : Option Path),
    (∃ c, load files env given = .ok c) ∨
      ∃ p, load files env given = .error p ∧ p.kind = "ConfigurationError" := by
  intro h
  let path : Path := ⟨.root, ["c.yml".toList]⟩
  let data : ByteArray := ⟨#[0x64, 0x65, 0x62, 0x75, 0x67, 0x3A, 0x20, 0xFF, 0x0A]⟩
  let files : Files := { nodes := [(["c.yml".toList], .file data)] }
  have hread : files.read path = .ok data := rfl
  have hdecode : Text.Utf8.decode? data.toList = none := by decide +kernel
  have hastray : Astray files {} (some path) := .undecodable rfl hread hdecode
  exact not_strays_iff.mpr (h files {} (some path)) (strays_load_iff_astray.mpr hastray)

end Typeset.Config
