import Mathlib.Data.List.Basic
import Typeset.Config.Validate

/-!
# Reading a configuration once more

A configuration that is written as data is read back as it was. The same holds of the options for
compiling when entries of a command line are put in the place of theirs: all entries that are left
are read back, and those of the command line are truth values, apart from the engine. So only the
engine can be an issue.

## Main definitions

* `Data.Value.HasNames`: a mapping whose keys are among some texts
* `Config.Overrides.engineFor`: the engine that is asked for, or else the configured one
* `Config.Overrides.set`: the options with an engine and those of a command line in their place

## Main results

* `Data.Value.get?_merge`: of the entries at a key, the last counts
* `Config.engineChoice_cases`: what a text asks for
* `Config.ofValue_record`: a configuration is read back from its data
* `Config.Overrides.apply_eq`: what the options of a command line change
* `Config.revalidated`: both at once, for every value and every command line
-/

namespace Typeset

namespace Data.Value

variable {key name : String} {names : List String} {v : Value} {es : List (Value × Value)}
  {fields : List (String × Value)}

/-! ## Entries of a mapping -/

theorem isKey_text : isKey key (.text name) = (name == key) := rfl

theorem isKey_iff : isKey key v = true ↔ v = .text key := by
  cases v <;> simp [isKey]

theorem get?_cons (e : Value × Value) (es : List (Value × Value)) (key : String) :
    (map (e :: es)).get? key = if isKey key e.1 then some e.2 else (map es).get? key := by
  simp only [get?, List.find?_cons]
  cases isKey key e.1 <;> rfl

theorem get?_record (fields : List (String × Value)) (key : String) :
    (record fields).get? key = fields.lookup key := by
  induction fields with
  | nil => rfl
  | cons f fields ih =>
    rw [List.lookup_cons, ← ih, record, List.map_cons, get?_cons, isKey_text, Bool.beq_comm]
    cases key == f.1 <;> rfl

/-- An entry keeps its place, and only its value is another one. -/
theorem get?_put (v : Value) (es : List (Value × Value)) (key name : String) :
    (map (put name v es)).get? key = if key = name then some v else (map es).get? key := by
  induction es with
  | nil =>
    rw [put, get?_cons, isKey_text]
    exact if_congr (beq_iff_eq.trans eq_comm) rfl rfl
  | cons e es ih =>
    rw [put]
    split
    · next hkey =>
      rw [get?_cons, get?_cons, isKey_iff.mp hkey, isKey_text]
      by_cases h : key = name
      · simp [h]
      · simp [h, Ne.symm h]
    · next hkey =>
      rw [get?_cons, get?_cons, ih]
      by_cases h : key = name
      · rw [h, if_neg hkey, if_pos rfl, if_pos rfl]
      · rw [if_neg h, if_neg h]

/-- Of the entries at a key, the last counts. -/
theorem get?_merge (es : List (Value × Value)) (fields : List (String × Value)) (key : String) :
    ((map es).merge fields).get? key = (fields.reverse.lookup key).or ((map es).get? key) := by
  induction fields generalizing es with
  | nil => rfl
  | cons f fields ih =>
    have hmerge : (map es).merge (f :: fields) = (map (put f.1 f.2 es)).merge fields := rfl
    rw [hmerge, ih, get?_put, List.reverse_cons, List.lookup_append, Option.or_assoc]
    congr 1
    rw [List.lookup_cons, List.lookup_nil]
    by_cases h : key = f.1
    · rw [if_pos h, beq_iff_eq.mpr h]
      rfl
    · rw [if_neg h, beq_eq_false_iff_ne.mpr h]
      rfl

/-- The value is a mapping whose keys are some of the given texts. -/
def HasNames (names : List String) : Value → Prop
  | .map es => ∀ e ∈ es, ∃ n ∈ names, e.1 = .text n
  | _ => False

/-- A record has the names of its fields, and at each name the first of their values. -/
theorem exists_record_eq (names : List String) (fields : List (String × Value))
    (h : fields.map Prod.fst = names) : ∃ es, record fields = .map es ∧
      HasNames names (.map es) ∧
        ∀ {key v}, fields.lookup key = some v → (map es).get? key = some v := by
  refine ⟨_, rfl, fun e he => ?_, fun {key v} hv => (get?_record fields key).trans hv⟩
  obtain ⟨f, hf, rfl⟩ := List.mem_map.mp he
  exact ⟨f.1, h ▸ List.mem_map_of_mem hf, rfl⟩

theorem HasNames.put (h : HasNames names (.map es)) (hname : name ∈ names) (v : Value) :
    HasNames names (.map (put name v es)) := by
  induction es with
  | nil =>
    intro e he
    rw [List.mem_singleton.mp he]
    exact ⟨name, hname, rfl⟩
  | cons e es ih =>
    obtain ⟨hfirst, hrest⟩ := List.forall_mem_cons.mp h
    rw [Value.put]
    split
    · exact List.forall_mem_cons.mpr ⟨hfirst, hrest⟩
    · exact List.forall_mem_cons.mpr ⟨hfirst, ih hrest⟩

theorem HasNames.merge (h : HasNames names (.map es)) (hfields : ∀ f ∈ fields, f.1 ∈ names) :
    HasNames names ((map es).merge fields) := by
  induction fields generalizing es with
  | nil => exact h
  | cons f fields ih =>
    obtain ⟨hfirst, hrest⟩ := List.forall_mem_cons.mp hfields
    exact ih (h.put hfirst f.2) hrest

end Data.Value

namespace Config

open Data (Value)

variable {name : String} {names : List String} {es : Entries} {v : Value}

/-! ## Reading single options -/

theorem option_of_ok {α : Type} {fallback a : α} {read : Value → Except Problem α}
    (hv : field? name es = some v) (ha : read v = .ok a) :
    option name fallback read es = ⟨a, []⟩ := by
  simp only [option, hv, Option.map_some, ha]

theorem option_of_error {α : Type} {fallback : α} {read : Value → Except Problem α} {p : Problem}
    (hv : field? name es = some v) (hp : read v = .error p) :
    option name fallback read es = ⟨fallback, [⟨[.key name], p⟩]⟩ := by
  simp only [option, hv, Option.map_some, hp]

theorem option_of_bool {fallback b : Bool} (hv : field? name es = some (.bool b)) :
    option name fallback asBool es = ⟨b, []⟩ :=
  option_of_ok hv rfl

theorem subgroup_of_ok {α : Type} {fallback a : α} {read : Value → Partial α}
    (hv : field? name es = some v) (ha : read v = ⟨a, []⟩) :
    subgroup name fallback read es = ⟨a, []⟩ := by
  simp only [subgroup, hv, ha, List.map_nil]

/-- No issues come from the keys of a mapping with known names. -/
theorem group_of_hasNames {α : Type} {title : String} {fallback : α} {read : Entries → Partial α}
    (h : Value.HasNames names (.map es)) : group title fallback names read (.map es) = read es := by
  have hbroken : (es.any fun e => isBroken e.1) = false := by
    rw [List.any_eq_false]
    intro e he
    obtain ⟨n, -, hkey⟩ := h e he
    simp [hkey, isBroken]
  have hstrays : strays names es = [] := by
    rw [strays, List.filterMap_eq_nil_iff]
    intro e he
    obtain ⟨n, hn, hkey⟩ := h e he
    simp [hkey, hn]
  simp only [group, hbroken, hstrays, List.append_nil, Bool.false_eq_true, if_false]

theorem toExcept_eq_ok_iff {α : Type} {p : Partial α} {a : α} :
    p.toExcept = .ok a ↔ p = ⟨a, []⟩ := by
  obtain ⟨value, issues⟩ := p
  cases issues <;> simp [Partial.toExcept]

/-! ## Engines -/

theorem engineChoice_name (e : Engine) : engineChoice e.name = .ok (some e) := by
  cases e <;> rfl

theorem asEngine_ofText? (e : Option Engine) : asEngine (.ofText? (e.map Engine.name)) = .ok e := by
  cases e with
  | none => rfl
  | some e => exact engineChoice_name e

/-- What a text asks for: nothing if it is blank, or else the engine whose name it is in upper or
lower case, if there is one. -/
theorem engineChoice_cases (given : String) :
    let name := Text.lower (Text.trim given.toList)
    (Text.trim given.toList = [] ∧ engineChoice given = .ok none) ∨
      Text.trim given.toList ≠ [] ∧
        ((∃ e : Engine, name = e.name.toList ∧ engineChoice given = .ok (some e)) ∨
          (∀ e : Engine, name ≠ e.name.toList) ∧
            engineChoice given = .error (.unsupportedEngine given)) := by
  intro name
  have hblank : name.isEmpty = true ↔ Text.trim given.toList = [] := by
    simp [name, Text.lower]
  unfold engineChoice
  by_cases h : name.isEmpty = true
  · exact .inl ⟨hblank.mp h, if_pos h⟩
  · refine .inr ⟨fun h' => h (hblank.mpr h'), ?_⟩
    rw [if_neg h]
    cases hname : Engine.ofName? name with
    | some e => exact .inl ⟨e, Engine.ofName?_eq_some_iff.mp hname, rfl⟩
    | none =>
      refine .inr ⟨fun e he => ?_, rfl⟩
      rw [he, Engine.ofName?_name] at hname
      cases hname

theorem forall_engineName_iff {P : String → Prop} :
    (∀ n ∈ ["pdflatex", "xelatex", "lualatex"], P n) ↔ ∀ e : Engine, P e.name := by
  constructor
  · exact fun h e => h e.name e.name_mem
  · intro h
    simpa using ⟨h .pdflatex, h .xelatex, h .lualatex⟩

/-- A text that is neither blank nor an engine is the only problem. -/
theorem engineChoice_eq_error_iff {given : String} {p : Problem} :
    engineChoice given = .error p ↔ Text.trim given.toList ≠ [] ∧
      (∀ n ∈ ["pdflatex", "xelatex", "lualatex"],
        Text.lower (Text.trim given.toList) ≠ n.toList) ∧ p = .unsupportedEngine given := by
  rw [forall_engineName_iff (P := fun n => Text.lower (Text.trim given.toList) ≠ n.toList)]
  obtain ⟨hblank, hchoice⟩ | ⟨hblank, ⟨e, hname, hchoice⟩ | ⟨hname, hchoice⟩⟩ :=
    engineChoice_cases given
  · rw [hchoice]
    exact ⟨nofun, fun h => absurd hblank h.1⟩
  · rw [hchoice]
    exact ⟨nofun, fun h => absurd hname (h.2.1 e)⟩
  · rw [hchoice]
    exact ⟨fun h => ⟨hblank, hname, (Except.error.inj h).symm⟩, fun h => by rw [h.2.2]⟩

/-! ## Groups of options -/

/-- Data that names the options for compiling, with the truth values that these need, is read but
for the engine. -/
theorem buildOptions_eq {synctex shellEscape cleanAux bibtex : Bool}
    (h : Value.HasNames buildNames (.map es))
    (hsynctex : field? "enable_synctex" es = some (.bool synctex))
    (hshellEscape : field? "shell_escape" es = some (.bool shellEscape))
    (hcleanAux : field? "clean_aux_files" es = some (.bool cleanAux))
    (hbibtex : field? "bibtex" es = some (.bool bibtex)) :
    buildOptions (.map es) =
      Partial.and ⟨fun e => ⟨e, synctex, shellEscape, cleanAux, bibtex⟩, []⟩
        (option "engine" none asEngine es) := by
  rw [buildOptions, group_of_hasNames h, option_of_bool hsynctex, option_of_bool hshellEscape,
    option_of_bool hcleanAux, option_of_bool hbibtex]
  simp only [Partial.and, List.append_nil, List.nil_append]

/-- The data of the options for compiling names them, with their values. -/
theorem exists_buildRecord_eq (b : BuildOptions) : ∃ es, b.record = .map es ∧
    Value.HasNames buildNames (.map es) ∧
    field? "engine" es = some (.ofText? (b.engine.map Engine.name)) ∧
    field? "enable_synctex" es = some (.bool b.synctex) ∧
    field? "shell_escape" es = some (.bool b.shellEscape) ∧
    field? "clean_aux_files" es = some (.bool b.cleanAux) ∧
    field? "bibtex" es = some (.bool b.bibtex) := by
  obtain ⟨es, hes, hnames, hfields⟩ := Value.exists_record_eq buildNames
    [("engine", .ofText? (b.engine.map Engine.name)), ("enable_synctex", .bool b.synctex),
      ("shell_escape", .bool b.shellEscape), ("clean_aux_files", .bool b.cleanAux),
      ("bibtex", .bool b.bibtex)] rfl
  exact ⟨es, hes, hnames, hfields rfl, hfields rfl, hfields rfl, hfields rfl, hfields rfl⟩

theorem buildOptions_record (b : BuildOptions) : buildOptions b.record = ⟨b, []⟩ := by
  obtain ⟨es, hes, hnames, hengine, hsynctex, hshellEscape, hcleanAux, hbibtex⟩ :=
    exists_buildRecord_eq b
  rw [hes, buildOptions_eq hnames hsynctex hshellEscape hcleanAux hbibtex,
    option_of_ok hengine (asEngine_ofText? b.engine)]
  rfl

theorem lintOptions_record (l : LintOptions) : lintOptions l.record = ⟨l, []⟩ := by
  obtain ⟨es, hes, hnames, hfields⟩ := Value.exists_record_eq lintNames
    [("suppress_errors", .bool l.suppressErrors), ("suppress_warnings", .bool l.suppressWarnings),
      ("suppress_infos", .bool l.suppressInfos), ("include_log_range", .bool l.includeLogRange)] rfl
  rw [LintOptions.record, hes, lintOptions, group_of_hasNames hnames, option_of_bool (hfields rfl),
    option_of_bool (hfields rfl), option_of_bool (hfields rfl), option_of_bool (hfields rfl)]
  rfl

theorem stringItems_text (n : Nat) (ss : List String) :
    stringItems n (ss.map .text) = ⟨ss, []⟩ := by
  induction ss generalizing n with
  | nil => rfl
  | cons s ss ih => simp only [List.map_cons, stringItems, ih, asString]

theorem cleanOptions_record (c : CleanOptions) : cleanOptions c.record = ⟨c, []⟩ := by
  obtain ⟨es, hes, hnames, hfields⟩ := Value.exists_record_eq ["aux_file_extensions"]
    [("aux_file_extensions", .list (c.auxiliaries.map .text))] rfl
  rw [CleanOptions.record, hes, cleanOptions, group_of_hasNames hnames,
    subgroup_of_ok (hfields rfl) (stringItems_text 0 c.auxiliaries)]
  rfl

/-- A configuration is read back from its data. -/
theorem ofValue_record (c : Config) : ofValue c.record = .ok c := by
  obtain ⟨es, hes, hnames, hfields⟩ := Value.exists_record_eq ["debug", "build", "clean", "linter"]
    [("debug", .bool c.debug), ("build", c.build.record), ("clean", c.clean.record),
      ("linter", c.lint.record)] rfl
  refine toExcept_eq_ok_iff.mpr ?_
  rw [Config.record, hes, wholeConfig, group_of_hasNames hnames, option_of_bool (hfields rfl),
    subgroup_of_ok (hfields rfl) (buildOptions_record c.build),
    subgroup_of_ok (hfields rfl) (cleanOptions_record c.clean),
    subgroup_of_ok (hfields rfl) (lintOptions_record c.lint)]
  rfl

/-! ## Overrides -/

namespace Overrides

variable (o : Overrides) (b : BuildOptions)

/-- The values that the command line sets, by their names. -/
theorem lookup_updates :
    o.updates.reverse.lookup "engine" = o.engine.map .text ∧
      o.updates.reverse.lookup "enable_synctex" = o.synctex.map .bool ∧
      o.updates.reverse.lookup "shell_escape" =
        (if o.shellEscape then some (.bool true) else none) ∧
      o.updates.reverse.lookup "clean_aux_files" =
        (if o.cleanAux then some (.bool true) else none) ∧
      o.updates.reverse.lookup "bibtex" = none := by
  obtain ⟨engine, synctex, shellEscape, cleanAux⟩ := o
  cases engine <;> cases synctex <;> cases shellEscape <;> cases cleanAux <;>
    exact ⟨rfl, rfl, rfl, rfl, rfl⟩

theorem mem_updates {f : String × Value} (hf : f ∈ o.updates) : f.1 ∈ buildNames := by
  simp only [updates, List.mem_append, Option.mem_toList, Option.map_eq_some_iff,
    List.mem_ite_nil_right, List.mem_singleton] at hf
  rcases hf with ((⟨_, -, rfl⟩ | ⟨_, -, rfl⟩) | ⟨-, rfl⟩) | ⟨-, rfl⟩ <;> simp [buildNames]

theorem eq_of_updates_eq_nil (h : o.updates = []) : o = {} := by
  obtain ⟨engine, synctex, shellEscape, cleanAux⟩ := o
  simpa [updates] using h

/-- The engine that is asked for in place of the configured one. -/
def engineFor : Except Problem (Option Engine) := o.engine.elim (.ok b.engine) engineChoice

/-- The options with those of the command line in their place, and an engine. -/
def set (engine : Option Engine) : BuildOptions where
  engine := engine
  synctex := o.synctex.getD b.synctex
  shellEscape := o.shellEscape || b.shellEscape
  cleanAux := o.cleanAux || b.cleanAux
  bibtex := b.bibtex

/-- With the entries of the command line in place, everything but the engine is sure to be read. At
each name there is the value of the command line, or else the one that was there. -/
theorem buildOptions_merge : ∃ es v, b.record.merge o.updates = .map es ∧
    field? "engine" es = some v ∧ asEngine v = engineFor o b ∧
      buildOptions (.map es) = Partial.and ⟨set o b, []⟩ (option "engine" none asEngine es) := by
  obtain ⟨es, hes, hnames, hengine, hsynctex, hshellEscape, hcleanAux, hbibtex⟩ :=
    exists_buildRecord_eq b
  obtain ⟨es', hes'⟩ : ∃ es', (Value.map es).merge o.updates = .map es' := ⟨_, rfl⟩
  have hnames' : Value.HasNames buildNames (.map es') := hes' ▸ hnames.merge fun f => o.mem_updates
  have hget {key : String} {v : Value} (hv : field? key es = some v) :
      field? key es' = some ((o.updates.reverse.lookup key).getD v) := by
    rw [field?] at hv ⊢
    rw [← hes', Value.get?_merge, hv]
    cases o.updates.reverse.lookup key <;> rfl
  obtain ⟨hengine', hsynctex', hshellEscape', hcleanAux', hbibtex'⟩ := o.lookup_updates
  refine ⟨es', _, by rw [hes, hes'], hget hengine, ?_, buildOptions_eq hnames' ?_ ?_ ?_ ?_⟩
  · rw [hengine', engineFor]
    cases o.engine with
    | none => exact asEngine_ofText? b.engine
    | some e => rfl
  · rw [hget hsynctex, hsynctex']
    cases o.synctex <;> rfl
  · rw [hget hshellEscape, hshellEscape']
    cases o.shellEscape <;> rfl
  · rw [hget hcleanAux, hcleanAux']
    cases o.cleanAux <;> rfl
  · rw [hget hbibtex, hbibtex']
    rfl

/-- Whether or not the options are read once more, they are those of the command line or else the
configured ones, and the engine is the only issue that there may be. -/
theorem apply_eq : o.apply b =
    ((engineFor o b).mapError fun p => [⟨[.key "engine"], p⟩]).map (set o b) := by
  unfold apply
  split
  · next hnil =>
    rw [o.eq_of_updates_eq_nil (List.isEmpty_iff.mp hnil)]
    rfl
  · obtain ⟨es, v, hes, hv, hengine, hoptions⟩ := o.buildOptions_merge b
    rw [hes, hoptions]
    cases h : engineFor o b with
    | ok e =>
      rw [option_of_ok hv (hengine.trans h)]
      rfl
    | error p =>
      rw [option_of_error hv (hengine.trans h)]
      rfl

theorem apply_eq_ok_iff {b' : BuildOptions} :
    o.apply b = .ok b' ↔ ∃ engine, engineFor o b = .ok engine ∧ b' = set o b engine := by
  rw [apply_eq]
  cases engineFor o b with
  | ok e => simp [Except.mapError, Except.map, eq_comm]
  | error p => simp [Except.mapError, Except.map]

theorem apply_eq_error_iff {is : List Issue} :
    o.apply b = .error is ↔ ∃ p, engineFor o b = .error p ∧ is = [⟨[.key "engine"], p⟩] := by
  rw [apply_eq]
  cases engineFor o b with
  | ok e => simp [Except.mapError, Except.map]
  | error p => simp [Except.mapError, Except.map, eq_comm]

theorem engineFor_eq_error_iff {p : Problem} :
    engineFor o b = .error p ↔
      ∃ given, o.engine = some given ∧ engineChoice given = .error p := by
  unfold engineFor
  cases o.engine <;> simp

end Overrides

/-- **Configurations can be read once more.** A configuration that a value describes is described by
its own data as well, in which the engine is nothing or the name of one. The options for compiling,
with those of a command line in their place, cannot be read if and only if the command line asks for
something that is neither blank nor an engine; that is the only issue then. Otherwise the engine is
the one that is asked for, or none if that is blank, the other options of the command line are set,
and the rest stays as it was. -/
theorem revalidated :
    (∀ (v : Value) (c : Config), ofValue v = .ok c →
      ofValue c.record = .ok c ∧ ∃ w, (c.record.get? "build").bind (Value.get? "engine") = some w ∧
        (w = .null ∨ ∃ n ∈ ["pdflatex", "xelatex", "lualatex"], w = .text n)) ∧
    ∀ (o : Overrides) (b : BuildOptions),
      (∀ is, o.apply b = .error is ↔ ∃ given, o.engine = some given ∧
        Text.trim given.toList ≠ [] ∧ (∀ n ∈ ["pdflatex", "xelatex", "lualatex"],
          Text.lower (Text.trim given.toList) ≠ n.toList) ∧
        is = [⟨[.key "engine"], .unsupportedEngine given⟩]) ∧
      ∀ b', o.apply b = .ok b' →
        (o.engine = none → b'.engine = b.engine) ∧
        (∀ given, o.engine = some given →
          (Text.trim given.toList = [] → b'.engine = none) ∧
          (Text.trim given.toList ≠ [] → ∃ e : Engine, b'.engine = some e ∧
            e.name.toList = Text.lower (Text.trim given.toList))) ∧
        b'.synctex = o.synctex.getD b.synctex ∧
        b'.shellEscape = (o.shellEscape || b.shellEscape) ∧
        b'.cleanAux = (o.cleanAux || b.cleanAux) ∧ b'.bibtex = b.bibtex := by
  refine ⟨fun v c _ => ⟨ofValue_record c, .ofText? (c.build.engine.map Engine.name), rfl, ?_⟩,
    fun o b => ⟨fun is => ?_, fun b' hb' => ?_⟩⟩
  · cases c.build.engine with
    | none => exact .inl rfl
    | some e => exact .inr ⟨e.name, e.name_mem, rfl⟩
  · simp only [Overrides.apply_eq_error_iff, Overrides.engineFor_eq_error_iff,
      engineChoice_eq_error_iff]
    constructor
    · rintro ⟨_, ⟨given, hgiven, hne, hname, rfl⟩, rfl⟩
      exact ⟨given, hgiven, hne, hname, rfl⟩
    · rintro ⟨given, hgiven, hne, hname, rfl⟩
      exact ⟨_, ⟨given, hgiven, hne, hname, rfl⟩, rfl⟩
  · obtain ⟨engine, hengine, rfl⟩ := o.apply_eq_ok_iff b |>.mp hb'
    refine ⟨fun h => ?_, fun given h => ?_, rfl, rfl, rfl, rfl⟩
    · rw [Overrides.engineFor, h] at hengine
      exact (Except.ok.inj hengine).symm
    · rw [Overrides.engineFor, h] at hengine
      obtain ⟨hblank, hchoice⟩ | ⟨hblank, ⟨e, hname, hchoice⟩ | ⟨-, hchoice⟩⟩ :=
        engineChoice_cases given
      · exact ⟨fun _ => Except.ok.inj (hengine.symm.trans hchoice), fun h' => absurd hblank h'⟩
      · exact ⟨fun h' => absurd h' hblank,
          fun _ => ⟨e, Except.ok.inj (hengine.symm.trans hchoice), hname.symm⟩⟩
      · cases hengine.symm.trans hchoice

/-- Words for truth values, and an engine and an option from the command line. -/
theorem revalidated_of_words :
    let v : Value := .record
      [("build", .record [("engine", .text " XeLaTeX "), ("bibtex", .text "Off")]),
        ("debug", .int 1), ("clean", .record [("aux_file_extensions", .list [.text "log"])])]
    let b : BuildOptions := { engine := some .xelatex, bibtex := false }
    let c : Config := { debug := true, build := b, clean := { auxiliaries := ["log"] } }
    let b' : BuildOptions := { engine := some .lualatex, synctex := false, bibtex := false }
    let o : Overrides := { engine := some "\tLuaLaTeX", synctex := some false }
    ofValue v = .ok c ∧ ofValue c.record = .ok c ∧ o.apply b = .ok b' ∧
      (∃ e : Engine, b'.engine = some e ∧ e.name.toList = Text.lower "LuaLaTeX".toList) ∧
      b'.bibtex = b.bibtex ∧ Overrides.apply { engine := some "tex" } b =
        .error [⟨[.key "engine"], .unsupportedEngine "tex"⟩] := by
  intro v b c b' o
  have hv : ofValue v = .ok c := rfl
  have hb' : o.apply b = .ok b' := rfl
  obtain ⟨hrecord, hoverrides⟩ := revalidated
  obtain ⟨-, hengine, -, -, -, hbibtex⟩ := (hoverrides o b).2 b' hb'
  exact ⟨hv, (hrecord v c hv).1, hb', (hengine _ rfl).2 (by decide), hbibtex,
    ((hoverrides _ b).1 _).mpr ⟨"tex", rfl, by decide, by decide, rfl⟩⟩

end Config

end Typeset
