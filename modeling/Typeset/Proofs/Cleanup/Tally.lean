import Mathlib.Data.Finset.Card
import Typeset.Command.Run
import Typeset.Proofs.Cleanup.Deleted

/-!
# What a sweep reports

A sweep reports the files that it removed and the entries that it could not remove. A file that was
removed is not tried again, so it is reported once and on one side only. An entry that could not be
removed is tried again by every pattern that asks for it, and is reported each time. So the number
that is reported in the end is the number of such entries only if no two patterns ask for the same
one.

Whether an entry can be removed, and whether it is there at all, depends on the entry alone and not
on the files that went before. So the reports can be counted pattern by pattern on the tree as it
was at first.

## Main definitions

* `Files.resists`: nothing with the name can be removed from the directory
* `Cleanup.misses`: a pattern asks in vain for an entry
* `Cleanup.Tallied`: how often each entry has been reported in vain

## Main results

* `Cleanup.Tallied.tryName`, `Cleanup.Tallied.tryEnd`: the steps of a sweep
* `Cleanup.tallied_sweep`: a whole sweep
* `Cleanup.reported_once_iff`: when each entry is reported once
-/

namespace Typeset

namespace Files

/-- Whether nothing with the name can be removed from the directory. -/
def resists (t : Files) (directory : Path) (n : Text) : Bool := !(t.unlink (directory.child n)).isOk

/-- Whether a name in a directory leads to an entry. -/
def holds (t : Files) (directory : Path) (n : Text) : Bool :=
  (t.probe (directory.child n)).toOption = some true

theorem resists_eq_false_iff {t : Files} {directory : Path} {n : Text} :
    t.resists directory n = false ↔ t.Removable directory n := by
  unfold resists Removable
  cases t.unlink (directory.child n) <;> simp [Except.isOk, Except.toBool]

end Files

namespace Cleanup

/-- Whether a pattern asks in vain for an entry of the directory of `tex`, in which `names` are the
files. Patterns with wildcards ask for files only. -/
def misses (files : Files) (tex : Path) (names : List Text) (n pattern : Text) : Bool :=
  asksFor tex.stem pattern n && files.resists tex.parent n &&
    if isNamePattern pattern then n ∈ names else files.holds tex.parent n

/-- Nothing with too long a name is there to be missed. -/
theorem misses_of_isOverlong {files : Files} {tex : Path} {place : Place} {names : List Text}
    {p : Text} (htree : files.IsTree) (hdir : files.find tex.parent = .ok (place, .directory))
    (hp : isOverlong tex p = true) (n : Text) : misses files tex names n p = false := by
  obtain ⟨hpattern, hlong⟩ := isOverlong_iff.mp hp
  simp only [misses, asksFor, hpattern, Bool.false_eq_true, if_false]
  by_cases hn : n = tex.stem ++ '.' :: p
  · have hprobe := (Files.probe_child_eq_error_iff htree hdir (n := n)).mpr ⟨rfl, hn ▸ hlong⟩
    have hholds : files.holds tex.parent n = false := by
      simp [Files.holds, hprobe, Except.toOption]
    rw [hholds, Bool.and_false]
  · rw [decide_eq_false hn, Bool.false_and, Bool.false_and]

/-- What has become of the files when some of them were asked for, and how often the removal of each
entry was tried in vain. -/
structure Tallied (files : Files) (directory : Path) (place : Place) (asked : Text → Prop)
    (missed : Text → Nat) (s : Sweep) : Prop where
  swept : Swept files directory place asked s
  failed : ∀ n, s.outcome.failed.count n = missed n

namespace Tallied

variable {files : Files} {directory : Path} {place : Place} {asked asked' : Text → Prop}
  {missed missed' : Text → Nat} {s : Sweep} {n : Text}

theorem congr (hs : Tallied files directory place asked missed s)
    (hasked : ∀ n, files.Removable directory n → (asked n ↔ asked' n))
    (hmissed : ∀ n, missed n = missed' n) :
    Tallied files directory place asked' missed' s where
  swept := hs.swept.congr hasked
  failed n := (hs.failed n).trans (hmissed n)

/-- What was removed could be. -/
theorem resists_of_mem (hs : Tallied files directory place asked missed s)
    (hn : n ∈ s.outcome.deleted) : files.resists directory n = false :=
  Files.resists_eq_false_iff.mpr (hs.swept.removable_of_mem hn)

variable (htree : files.IsTree) (hdir : files.find directory = .ok (place, .directory))
include htree hdir

/-- What is left resists now if it did at first. -/
theorem resists_of_not_mem (hs : Tallied files directory place asked missed s)
    (hn : n ∉ s.outcome.deleted) : s.files.resists directory n = files.resists directory n := by
  rw [Bool.eq_iff_iff, ← not_iff_not, Bool.not_eq_true, Bool.not_eq_true,
    Files.resists_eq_false_iff, Files.resists_eq_false_iff, hs.swept.removable_iff htree hdir]
  exact and_iff_left hn

/-- Another file is tried. -/
theorem unlink (hs : Tallied files directory place asked missed s) (hn : n ∉ s.outcome.deleted) :
    Tallied files directory place (fun m => asked m ∨ m = n)
      (fun m => missed m + if n = m ∧ files.resists directory m = true then 1 else 0)
      (s.unlink (directory.child n)) where
  swept := hs.swept.unlink htree hdir hn
  failed m := by
    have hresists := hs.resists_of_not_mem htree hdir hn
    rw [Files.resists] at hresists
    unfold Sweep.unlink
    split
    · next hu =>
      rw [hu] at hresists
      have hno : ¬ (n = m ∧ files.resists directory m = true) := by
        rintro ⟨rfl, h⟩
        rw [h] at hresists
        cases hresists
      rw [if_neg hno]
      exact hs.failed m
    · next hu =>
      rw [hu] at hresists
      rw [List.count_append, hs.failed, Path.name_child, List.count_singleton]
      by_cases hm : n = m
      · subst hm
        rw [← hresists]
        simp [Except.isOk, Except.toBool]
      · simp [hm]

/-- A pattern is held against one of the names. A file that went before could be removed. -/
theorem tryName {base pattern : Text} (hpattern : isNamePattern pattern = true)
    (hs : Tallied files directory place asked missed s) (name : Text) :
    Tallied files directory place (fun m => asked m ∨ m = name ∧ asksFor base pattern m = true)
      (fun m => missed m +
        if name = m ∧ (asksFor base pattern m && files.resists directory m) = true then 1 else 0)
      (s.tryName directory base pattern name) := by
  refine ⟨hs.swept.tryName htree hdir hpattern name, fun m => ?_⟩
  rw [tryName_eq hpattern]
  split
  · next htry =>
    rw [(hs.unlink htree hdir htry.2).failed]
    by_cases hm : name = m
    · subst hm
      rw [htry.1, Bool.true_and]
    · simp [hm]
  · next hskip =>
    rw [hs.failed, if_neg, Nat.add_zero]
    rintro ⟨rfl, h⟩
    rw [Bool.and_eq_true] at h
    have hgone : name ∈ s.outcome.deleted := by simpa [h.1] using hskip
    rw [hs.resists_of_mem hgone] at h
    cases h.2

/-- A pattern is held against all of the names. -/
theorem foldl_tryName {base pattern : Text} (hpattern : isNamePattern pattern = true)
    (hs : Tallied files directory place asked missed s) (names : List Text) :
    Tallied files directory place (fun m => asked m ∨ m ∈ names ∧ asksFor base pattern m = true)
      (fun m => missed m +
        if (asksFor base pattern m && files.resists directory m) = true then names.count m else 0)
      (names.foldl (Sweep.tryName directory base pattern) s) := by
  induction names generalizing s asked missed with
  | nil => exact hs.congr (fun m _ => by simp) fun m => by simp
  | cons name names ih =>
    refine (ih (hs.tryName htree hdir hpattern name)).congr (fun m _ => ?_) fun m => ?_
    · rw [or_assoc, ← or_and_right, List.mem_cons]
    · rw [List.count_cons, Nat.add_assoc]
      congr 1
      cases asksFor base pattern m && files.resists directory m with
      | false => simp
      | true => by_cases hm : name = m <;> simp [hm, Nat.add_comm]

/-- The file of the document with some end is asked for, if there is one. Nothing is counted unless
it resists. -/
theorem tryEnd {base pattern : Text} (hpattern : isNamePattern pattern = false)
    (hcomponent : Path.IsComponent (base ++ '.' :: pattern))
    (hs : Tallied files directory place asked missed s) :
    Tallied files directory place (fun m => asked m ∨ asksFor base pattern m = true)
      (fun m => missed m + if (asksFor base pattern m && files.resists directory m &&
        files.holds directory m) = true then 1 else 0)
      (s.tryEnd directory base pattern) := by
  refine ⟨(hs.swept.tryEnd htree hdir hpattern hcomponent).1, fun m => ?_⟩
  have hasks : ∀ m, asksFor base pattern m = true ↔ m = base ++ '.' :: pattern := by
    simp [asksFor, hpattern]
  have hcases := hs.swept.tryEnd_cases htree hdir hcomponent rfl
  generalize base ++ '.' :: pattern = n at hasks hcases
  have hnothing (h : files.resists directory n = true → files.holds directory n = false) :
      s.outcome.failed.count m = missed m + if (asksFor base pattern m &&
        files.resists directory m && files.holds directory m) = true then 1 else 0 := by
    rw [hs.failed, if_neg, Nat.add_zero]
    simp only [Bool.and_eq_true, hasks]
    rintro ⟨⟨rfl, hresists⟩, hholds⟩
    rw [h hresists] at hholds
    cases hholds
  rcases hcases with ⟨hgone | hnone, heq⟩ | ⟨hleft, hfound, heq⟩ | ⟨hfound, heq⟩ <;> rw [heq]
  · refine hnothing fun hresists => ?_
    rw [hs.resists_of_mem hgone] at hresists
    cases hresists
  · exact hnothing fun _ => by simp [Files.holds, hnone, Except.toOption]
  · have hholds : files.holds directory n = true := by
      simp [Files.holds, hfound, Except.toOption]
    rw [(hs.unlink htree hdir hleft).failed]
    congr 1
    refine if_congr ?_ rfl rfl
    simp only [Bool.and_eq_true, hasks]
    constructor
    · rintro ⟨rfl, hresists⟩
      exact ⟨⟨rfl, hresists⟩, hholds⟩
    · rintro ⟨⟨rfl, hresists⟩, -⟩
      exact ⟨rfl, hresists⟩
  · exact hnothing fun _ => by simp [Files.holds, hfound, Except.toOption]

end Tallied

/-! ## Whole sweeps -/

namespace Tallied

variable {files : Files} {tex : Path} {place : Place} {asked : Text → Prop} {missed : Text → Nat}
  {s : Sweep} {names : List Text} (htree : files.IsTree)
  (hdir : files.find tex.parent = .ok (place, .directory))
  (hnames : ∀ n, files.Removable tex.parent n → n ∈ names) (hnodup : names.Nodup)

include htree hdir hnames hnodup

/-- A pattern is counted for each entry that it misses. Every file is listed once, so it is tried
once. -/
theorem tryPattern {pattern : Text} (hcomponent : Path.IsComponent (tex.stem ++ '.' :: pattern))
    (hs : Tallied files tex.parent place asked missed s) (hstop : s.stop = none) :
    Tallied files tex.parent place (fun n => asked n ∨ asksFor tex.stem pattern n = true)
      (fun n => missed n + if misses files tex names n pattern = true then 1 else 0)
      (s.tryPattern tex.parent tex.stem names pattern) := by
  rw [Sweep.tryPattern, if_neg (by simp [hstop])]
  cases hpattern : isNamePattern pattern with
  | true =>
    rw [if_pos rfl]
    refine (hs.foldl_tryName htree hdir hpattern names).congr (fun n hn => ?_) fun n => ?_
    · rw [and_iff_right (hnames n hn)]
    · rw [misses, hpattern, if_pos rfl]
      by_cases hn : n ∈ names
      · rw [List.count_eq_one_of_mem hnodup hn, decide_eq_true hn, Bool.and_true]
      · rw [List.count_eq_zero_of_not_mem hn, decide_eq_false hn, Bool.and_false]
        simp
  | false =>
    rw [if_neg (by simp)]
    refine (hs.tryEnd htree hdir hpattern hcomponent).congr (fun _ _ => Iff.rfl) fun n => ?_
    simp only [misses, hpattern, Bool.false_eq_true, if_false]

/-- A pattern that makes too long a name finds nothing there, and ends the sweep. -/
theorem foldl_tryPattern {patterns : List Text}
    (hcomponent : ∀ p ∈ patterns, Path.IsComponent (tex.stem ++ '.' :: p))
    (hs : Tallied files tex.parent place asked missed s) (hstop : s.stop = none) :
    ∀ n, (patterns.foldl (Sweep.tryPattern tex.parent tex.stem names) s).outcome.failed.count n =
      missed n + (carriedOut tex patterns).countP (misses files tex names n) := by
  induction patterns generalizing s asked missed with
  | nil => exact hs.failed
  | cons p patterns ih =>
    intro n
    obtain ⟨hp, hpatterns⟩ := List.forall_mem_cons.mp hcomponent
    have hs' := hs.tryPattern htree hdir hnames hnodup hp hstop
    have hstop' := (hs.swept.tryPattern htree hdir hnames hp hstop).2
    rw [List.foldl_cons]
    cases hlong : isOverlong tex p with
    | true =>
      rw [hlong, if_pos rfl] at hstop'
      rw [foldl_tryPattern_of_stop (by simp [hstop']), hs'.failed,
        carriedOut_cons_of_isOverlong hlong, misses_of_isOverlong htree hdir hlong]
      rfl
    | false =>
      rw [hlong] at hstop'
      rw [ih hpatterns hs' hstop' n, carriedOut_cons_of_not_isOverlong hlong, List.countP_cons]
      omega

end Tallied

section Reports

variable {files : Files} {tex : Path} {patterns : List Text} {entries : List (Text × Node)}

/-- The names in a directory are different, so those of the files are too. -/
theorem nodup_fileNames (h : (entries.map Prod.fst).Nodup) : (fileNames entries).Nodup := by
  refine List.Nodup.sublist ?_ h
  rw [fileNames, ← List.filterMap_eq_map]
  induction entries with
  | nil => exact .slnil
  | cons e entries ih =>
    obtain ⟨name, data | _⟩ := e
    · exact (ih (List.nodup_cons.mp h).2).cons_cons name
    · exact (ih (List.nodup_cons.mp h).2).cons name

/-- After a whole sweep every pattern that was carried out has been counted for what it missed. -/
theorem tallied_sweep (htree : files.IsTree) (hplaces : (files.nodes.map Prod.fst).Nodup)
    (hlist : files.list tex.parent = .ok entries) (hclean : tex.IsClean) (hname : tex.name ≠ [])
    (hne : patterns ≠ []) (hslash : ∀ p ∈ patterns, '/' ∉ p) :
    ∃ place s, files.find tex.parent = .ok (place, .directory) ∧ sweep files tex patterns = .ok s ∧
      Tallied files tex.parent place
        (fun n => ∃ p ∈ carriedOut tex patterns, asksFor tex.stem p n = true)
        (fun n => (carriedOut tex patterns).countP (misses files tex (fileNames entries) n)) s ∧
      s.stop = if patterns.any (isOverlong tex) then some .nameTooLong else none := by
  obtain ⟨place, s, hdir, hs, hswept, hstop⟩ :=
    swept_sweep htree hlist hclean hname hne hslash
  refine ⟨place, s, hdir, hs, ⟨hswept, fun n => ?_⟩, hstop⟩
  obtain rfl : entries = files.entriesAt place := by
    rw [Files.list_of_find hdir] at hlist
    exact (Except.ok.inj hlist).symm
  have hnodup := nodup_fileNames (Files.nodup_names_entriesAt hplaces place)
  have hstart : Tallied files tex.parent place (fun _ => False) (fun _ => 0) { files := files } :=
    ⟨.start files tex.parent place, fun _ => rfl⟩
  have hcount := hstart.foldl_tryPattern htree hdir (fun n hn => mem_fileNames htree hdir hn) hnodup
    (fun p hp => isComponent_of_plain hclean hname (hslash p hp)) rfl n
  rw [sweep, if_neg (by simpa using hne), hlist] at hs
  rw [← Except.ok.inj hs, hcount, Nat.zero_add]

/-- Different names are counted by the number of the entries in a list. -/
theorem length_eq_card_iff {names : List Text} :
    names.length = names.toFinset.card ↔ names.Nodup := by
  rw [eq_comm, ← Multiset.coe_nodup, ← Multiset.toFinset_card_eq_card_iff_nodup,
    Multiset.coe_card, List.toFinset_coe]

/-- **Each entry is reported once, unless two patterns miss it.** Beside a document, a sweep reports
every file that it removed once, and none of them as one that could not be removed. An entry that
could not be removed is reported by each pattern that asks for it and is carried out. So no name is
reported twice, and the number that the command gives in the end is the number of the entries that
could not be removed, exactly if no such entry is asked for by two patterns. -/
theorem reported_once_iff (htree : files.IsTree) (hplaces : (files.nodes.map Prod.fst).Nodup)
    (hlist : files.list tex.parent = .ok entries) (hclean : tex.IsClean) (hname : tex.name ≠ [])
    (hne : patterns ≠ []) (hslash : ∀ p ∈ patterns, '/' ∉ p) :
    ∃ s, sweep files tex patterns = .ok s ∧
      s.stop = (if patterns.any (isOverlong tex) then some .nameTooLong else none) ∧
      s.outcome.deleted.Nodup ∧
      (∀ n ∈ s.outcome.deleted, n ∉ s.outcome.failed) ∧
      (∀ n, s.outcome.failed.count n =
        (carriedOut tex patterns).countP (misses files tex (fileNames entries) n)) ∧
      ((s.outcome.deleted ++ s.outcome.failed).Nodup ↔
        ∀ n, (carriedOut tex patterns).countP (misses files tex (fileNames entries) n) ≤ 1) ∧
      (s.outcome.failed.length = s.outcome.failed.toFinset.card ↔
        ∀ n, (carriedOut tex patterns).countP (misses files tex (fileNames entries) n) ≤ 1) ∧
      ∀ (around : Command.Surroundings) (verbosity : Nat) (o : CleanOptions),
        around.files = files → o.auxiliaries.map String.toList = patterns → s.stop = none →
        s.outcome.failed ≠ [] →
          Command.clean around verbosity tex o =
            { exit := 1
              output := (Console.cleanupReport around.results tex s.outcome).output ++
                Console.showAlarm verbosity .warning
                  ("Failed to delete " ++ toString s.outcome.failed.length ++ " file(s).") []
              files := s.files } := by
  obtain ⟨place, s, hdir, hs, htallied, hstop⟩ :=
    tallied_sweep htree hplaces hlist hclean hname hne hslash
  have hapart : ∀ n ∈ s.outcome.deleted, n ∉ s.outcome.failed := by
    intro n hn
    have hno := htallied.resists_of_mem hn
    rw [← List.count_eq_zero, htallied.failed, List.countP_eq_zero]
    intro p _
    simp [misses, hno]
  have honce : s.outcome.failed.Nodup ↔
      ∀ n, (carriedOut tex patterns).countP (misses files tex (fileNames entries) n) ≤ 1 := by
    rw [List.nodup_iff_count_le_one]
    exact forall_congr' fun n => by rw [htallied.failed]
  refine ⟨s, hs, hstop, htallied.swept.nodup, hapart, htallied.failed, ?_, ?_, ?_⟩
  · rw [← honce, List.nodup_append]
    constructor
    · exact fun h => h.2.1
    · exact fun h => ⟨htallied.swept.nodup, h, fun n hn m hm heq => hapart n hn (heq ▸ hm)⟩
  · rw [length_eq_card_iff, honce]
  · intro around verbosity o hfiles hpatterns hdone hfailed
    have hlength : s.outcome.failed.length ≠ 0 := fun h => hfailed (List.length_eq_zero_iff.mp h)
    simp only [Command.clean, hfiles, hpatterns, hs, hdone, Option.isSome_none,
      Bool.false_eq_true, if_false, hlength]

/-- The auxiliary file is pinned, and two patterns ask for it. -/
theorem reported_beside_pinned_file :
    let files : Files :=
      { nodes := [(["main.aux".toList], .file .empty), (["main.log".toList], .file .empty),
          (["main.tex".toList], .file .empty)]
        pinned := [["main.aux".toList]] }
    let tex := Path.ofString "main.tex"
    ∃ s, sweep files tex ["aux".toList, "log".toList, "*.aux".toList] = .ok s ∧
      s.outcome.deleted.Nodup ∧ s.outcome.failed.count "main.aux".toList = 2 ∧
      s.outcome.failed.count "main.log".toList = 0 ∧
      s.outcome.failed.length ≠ s.outcome.failed.toFinset.card := by
  intro files tex
  have htree : files.IsTree := Files.isTree_of_forall_nodes (by decide +kernel)
  have hdir : files.find tex.parent = .ok ([], .directory) := rfl
  have hclean : tex.IsClean := Path.isClean_ofText _
  have hsorted : files.entriesAt [] = [("main.aux".toList, .file .empty),
      ("main.log".toList, .file .empty), ("main.tex".toList, .file .empty)] :=
    List.mergeSort_of_pairwise (by simp [Files.nameLe]; decide +kernel)
  have hlist := Files.list_of_find hdir
  rw [hsorted] at hlist
  obtain ⟨s, hs, -, hdeleted, -, hcount, -, hcard, -⟩ :=
    reported_once_iff htree (by decide +kernel) hlist hclean (by decide) (by decide)
      (by decide : ∀ p ∈ ["aux".toList, "log".toList, "*.aux".toList], '/' ∉ p)
  have hcarried : carriedOut tex ["aux".toList, "log".toList, "*.aux".toList] =
      ["aux".toList, "log".toList, "*.aux".toList] := by decide +kernel
  rw [hcarried] at hcount hcard
  have haux : s.outcome.failed.count "main.aux".toList = 2 := by
    have hresists : files.resists tex.parent "main.aux".toList = true := by decide +kernel
    have hasks : asksFor tex.stem "*.aux".toList "main.aux".toList = true := by cbv
    rw [hcount, List.countP_cons_of_pos (by decide +kernel),
      List.countP_cons_of_neg (by decide +kernel),
      List.countP_cons_of_pos (by rw [misses, hasks, hresists]; decide +kernel), List.countP_nil]
  have hlog : s.outcome.failed.count "main.log".toList = 0 := by
    have hno : files.resists tex.parent "main.log".toList = false := by decide +kernel
    rw [hcount, List.countP_eq_zero]
    intro p _
    rw [misses, hno, Bool.and_false, Bool.false_and]
    exact Bool.false_ne_true
  refine ⟨s, hs, hdeleted, haux, hlog, fun h => ?_⟩
  have hmost := hcard.mp h "main.aux".toList
  rw [← hcount, haux] at hmost
  omega

/-- The document has a directory in the place of its auxiliary file, and a pattern stands twice. -/
theorem reported_twice :
    let files : Files :=
      { nodes := [(["main.tex".toList], .file .empty), (["main.aux".toList], .directory)] }
    let tex := Path.ofString "main.tex"
    ∃ s, sweep files tex ["aux".toList, "aux".toList] = .ok s ∧ s.stop = none ∧
      s.outcome = { deleted := [], failed := ["main.aux".toList, "main.aux".toList] } ∧
      ¬ (s.outcome.deleted ++ s.outcome.failed).Nodup ∧ s.outcome.failed.toFinset.card = 1 ∧
      ∀ around : Command.Surroundings, around.files = files →
        Command.clean around 0 tex { auxiliaries := ["aux", "aux"] } =
          { exit := 1
            output := (Console.cleanupReport around.results tex s.outcome).output ++
              Console.showAlarm 0 .warning "Failed to delete 2 file(s)." []
            files := s.files } := by
  intro files tex
  have hdone : (sweep files tex ["aux".toList, "aux".toList]).map (fun s => (s.outcome, s.stop)) =
      .ok ({ failed := ["main.aux".toList, "main.aux".toList] }, none) := by decide +kernel
  obtain ⟨s, hs⟩ : ∃ s, sweep files tex ["aux".toList, "aux".toList] = .ok s := ⟨_, rfl⟩
  obtain ⟨houtcome, hstop⟩ : s.outcome = { failed := ["main.aux".toList, "main.aux".toList] } ∧
      s.stop = none := by
    rw [hs] at hdone
    simpa [Except.map] using hdone
  refine ⟨s, hs, hstop, houtcome, ?_, ?_, fun around hfiles => ?_⟩
  · rw [houtcome]
    decide
  · rw [houtcome]
    decide
  · have hpatterns : ["aux", "aux"].map String.toList = ["aux".toList, "aux".toList] := rfl
    have hmessage : "Failed to delete " ++ toString 2 ++ " file(s)." =
        "Failed to delete 2 file(s)." := by decide
    simp only [Command.clean, hfiles, hpatterns, hs, hstop, Option.isSome_none,
      Bool.false_eq_true, if_false, houtcome, List.length_cons, List.length_nil]
    rw [if_neg (by decide), hmessage]

end Reports

end Cleanup

end Typeset
