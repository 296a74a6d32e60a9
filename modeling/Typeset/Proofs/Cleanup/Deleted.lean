import Mathlib.Data.List.TakeWhile
import Typeset.Cleanup.Sweep
import Typeset.Proofs.Files.Removal
import Typeset.Proofs.Path.Written

/-!
# What a sweep removes

A sweep removes the files of the document's directory that some pattern asks for, as far as they can
be removed, and nothing else. The patterns are carried out one after another on a directory that
gets emptier, some on the names that it had at first and others on what is there now; both amount to
the same, since a file that went before is never asked for again, and those that are left can be
removed as before. So the order of the patterns does not matter, and a second sweep finds nothing
left to remove.

Only a plain pattern whose file has a name that is too long to be looked up ends the sweep with an
error, and the patterns behind it are not carried out.

## Main definitions

* `Cleanup.asksFor`: a pattern asks for the removal of a file
* `Cleanup.isOverlong`: a plain pattern makes a name that is too long
* `Cleanup.carriedOut`: the patterns before the first one that makes too long a name
* `Cleanup.Swept`: what has become of the files when some of them were asked for

## Main results

* `Cleanup.Swept.tryEnd_cases`: what a plain pattern does
* `Cleanup.Swept.tryName`, `Cleanup.Swept.tryEnd`: the steps of a sweep
* `Cleanup.swept_sweep`: a whole sweep
* `Cleanup.deleted_iff_asked`: the files that are removed, whatever the order of the patterns
-/

namespace Typeset.Cleanup

/-- Whether a pattern asks for the removal of a file beside a document with the name `base`. -/
def asksFor (base pattern n : Text) : Bool :=
  if isNamePattern pattern then
    !protectedEnds.any (Text.endsWith · n) && Wildcard.matchesName pattern base n
  else n = base ++ '.' :: pattern

/-- Whether a plain pattern makes a name beside the document that is too long to be looked up. -/
def isOverlong (tex : Path) (pattern : Text) : Bool :=
  !isNamePattern pattern &&
    Files.childProblem? tex.parent (tex.stem ++ '.' :: pattern) = some .nameTooLong

/-- The patterns before the first one that makes too long a name. -/
def carriedOut (tex : Path) (patterns : List Text) : List Text :=
  patterns.takeWhile fun p => !isOverlong tex p

theorem carriedOut_cons_of_isOverlong {tex : Path} {p : Text} (h : isOverlong tex p = true)
    (patterns : List Text) : carriedOut tex (p :: patterns) = [] := by
  simp [carriedOut, h]

theorem carriedOut_cons_of_not_isOverlong {tex : Path} {p : Text} (h : isOverlong tex p = false)
    (patterns : List Text) : carriedOut tex (p :: patterns) = p :: carriedOut tex patterns := by
  simp [carriedOut, h]

/-- All patterns are carried out unless one makes too long a name. -/
theorem carriedOut_eq_self {tex : Path} {patterns : List Text}
    (h : ∀ p ∈ patterns, isOverlong tex p = false) : carriedOut tex patterns = patterns :=
  List.takeWhile_eq_self_iff.mpr fun p hp => by simp [h p hp]

theorem isOverlong_iff {tex : Path} {p : Text} : isOverlong tex p = true ↔
    isNamePattern p = false ∧
      Files.childProblem? tex.parent (tex.stem ++ '.' :: p) = some .nameTooLong := by
  simp [isOverlong]

/-- No file with too long a name can be removed. -/
theorem not_asksFor_of_isOverlong {files : Files} {tex : Path} {place : Place} {p n : Text}
    (htree : files.IsTree) (hdir : files.find tex.parent = .ok (place, .directory))
    (hp : isOverlong tex p = true) (hn : files.Removable tex.parent n) :
    asksFor tex.stem p n = false := by
  obtain ⟨hpattern, hlong⟩ := isOverlong_iff.mp hp
  have hne : n ≠ tex.stem ++ '.' :: p := by
    rintro rfl
    rw [((Files.removable_iff htree hdir).mp hn).2.1] at hlong
    cases hlong
  simp [asksFor, hpattern, hne]

/-! ## Steps -/

theorem stop_unlink (s : Sweep) (p : Path) : (s.unlink p).stop = s.stop := by
  unfold Sweep.unlink
  split <;> rfl

/-- A name is tried if the pattern asks for it and the file did not go before. -/
theorem tryName_eq {base pattern : Text} (hpattern : isNamePattern pattern = true)
    (directory : Path) (s : Sweep) (name : Text) :
    s.tryName directory base pattern name =
      if asksFor base pattern name = true ∧ name ∉ s.outcome.deleted then
        s.unlink (directory.child name)
      else s := by
  have hasks : asksFor base pattern name = (!protectedEnds.any (Text.endsWith · name) &&
      Wildcard.matchesName pattern base name) := by simp [asksFor, hpattern]
  rw [Sweep.tryName, hasks]
  cases protectedEnds.any (Text.endsWith · name) <;>
    cases Wildcard.matchesName pattern base name <;> simp

/-- What has become of the files when those were asked for with which `asked` holds. -/
structure Swept (files : Files) (directory : Path) (place : Place) (asked : Text → Prop)
    (s : Sweep) : Prop where
  /-- Nothing is missing but what was removed. -/
  tree : s.files = files.without place s.outcome.deleted
  /-- What was asked for was removed if it could be. -/
  deleted : ∀ n, n ∈ s.outcome.deleted ↔ files.Removable directory n ∧ asked n
  nodup : s.outcome.deleted.Nodup

namespace Swept

variable {files : Files} {directory : Path} {place : Place} {asked asked' : Text → Prop}
  {s : Sweep} {n : Text}

theorem start (files : Files) (directory : Path) (place : Place) :
    Swept files directory place (fun _ => False) { files := files } where
  tree := (Files.without_nil files place).symm
  deleted n := by simp
  nodup := .nil

/-- Files that cannot be removed may be asked for or not. -/
theorem congr (hs : Swept files directory place asked s)
    (h : ∀ n, files.Removable directory n → (asked n ↔ asked' n)) :
    Swept files directory place asked' s where
  tree := hs.tree
  deleted n := (hs.deleted n).trans (and_congr_right (h n))
  nodup := hs.nodup

/-- The files that were removed could be. -/
theorem removable_of_mem (hs : Swept files directory place asked s)
    (hn : n ∈ s.outcome.deleted) : files.Removable directory n := ((hs.deleted n).mp hn).1

variable (htree : files.IsTree) (hdir : files.find directory = .ok (place, .directory))
include htree hdir

theorem isTree (hs : Swept files directory place asked s) : s.files.IsTree := by
  rw [hs.tree]
  exact Files.isTree_without htree hdir fun n => hs.removable_of_mem

/-- The directory is still there. -/
theorem find_directory (hs : Swept files directory place asked s) :
    s.files.find directory = .ok (place, .directory) := by
  rw [hs.tree]
  exact Files.find_directory_without htree hdir fun n => hs.removable_of_mem

/-- What can be removed now are the files that could be removed at first, as far as they are
there. -/
theorem removable_iff (hs : Swept files directory place asked s) :
    s.files.Removable directory n ↔ files.Removable directory n ∧ n ∉ s.outcome.deleted := by
  rw [hs.tree]
  exact Files.removable_without htree hdir fun n => hs.removable_of_mem

/-- Another file is asked for. -/
theorem unlink (hs : Swept files directory place asked s) (hn : n ∉ s.outcome.deleted) :
    Swept files directory place (fun m => asked m ∨ m = n) (s.unlink (directory.child n)) := by
  have hremovable := hs.removable_iff htree hdir (n := n)
  cases hu : s.files.unlink (directory.child n) with
  | ok u =>
    have hyes : s.files.Removable directory n := ⟨u, hu⟩
    have hu' : u = files.without place (s.outcome.deleted ++ [n]) := by
      rw [Files.unlink_child (hs.isTree htree hdir) (hs.find_directory htree hdir) hyes, hs.tree,
        Files.remove_without] at hu
      exact (Except.ok.inj hu).symm
    have hnext : s.unlink (directory.child n) = { s with
        files := u, outcome := { s.outcome with deleted := s.outcome.deleted ++ [n] } } := by
      rw [Sweep.unlink, hu, Path.name_child]
    rw [hnext]
    refine ⟨hu', fun m => ?_, ?_⟩
    · simp only [List.mem_append, hs.deleted, List.mem_singleton]
      constructor
      · rintro (⟨hm, hasked⟩ | rfl)
        · exact ⟨hm, .inl hasked⟩
        · exact ⟨(hremovable.mp hyes).1, .inr rfl⟩
      · rintro ⟨hm, hasked | rfl⟩
        · exact .inl ⟨hm, hasked⟩
        · exact .inr rfl
    · refine List.nodup_append.mpr ⟨hs.nodup, by simp, fun a ha b hb hab => hn ?_⟩
      rwa [← List.mem_singleton.mp hb, ← hab]
  | error e =>
    have hno : ¬ files.Removable directory n := by
      intro hyes
      obtain ⟨u, hu'⟩ := hremovable.mpr ⟨hyes, hn⟩
      rw [hu'] at hu
      cases hu
    have hnext : s.unlink (directory.child n) =
        { s with outcome := { s.outcome with failed := s.outcome.failed ++ [n] } } := by
      rw [Sweep.unlink, hu, Path.name_child]
    rw [hnext]
    refine Swept.congr ⟨hs.tree, hs.deleted, hs.nodup⟩ fun m hm => ?_
    have hne : m ≠ n := fun h => hno (h ▸ hm)
    simp [hne]

/-- A pattern is held against one of the names. -/
theorem tryName {base pattern : Text} (hpattern : isNamePattern pattern = true)
    (hs : Swept files directory place asked s) (name : Text) :
    Swept files directory place (fun m => asked m ∨ m = name ∧ asksFor base pattern m = true)
      (s.tryName directory base pattern name) := by
  rw [tryName_eq hpattern]
  split
  · next htry =>
    refine (hs.unlink htree hdir htry.2).congr fun m _ => or_congr_right ⟨?_, And.left⟩
    rintro rfl
    exact ⟨rfl, htry.1⟩
  · next hskip =>
    refine hs.congr fun m _ => ⟨.inl, ?_⟩
    rintro (hasked | ⟨rfl, hasks⟩)
    · exact hasked
    · have hgone : m ∈ s.outcome.deleted := by simpa [hasks] using hskip
      exact ((hs.deleted m).mp hgone).2

/-- A pattern is held against all of the names. -/
theorem foldl_tryName {base pattern : Text} (hpattern : isNamePattern pattern = true)
    (hs : Swept files directory place asked s) (names : List Text) :
    Swept files directory place (fun m => asked m ∨ m ∈ names ∧ asksFor base pattern m = true)
      (names.foldl (Sweep.tryName directory base pattern) s) := by
  induction names generalizing s asked with
  | nil => exact hs.congr fun m _ => by simp
  | cons name names ih =>
    refine (ih (hs.tryName htree hdir hpattern name)).congr fun m _ => ?_
    rw [or_assoc, ← or_and_right, List.mem_cons]

/-- What is found under a name now was found there at first, unless it went before. -/
theorem probe_child (hs : Swept files directory place asked s) (hn : n ∉ s.outcome.deleted) :
    s.files.probe (directory.child n) = files.probe (directory.child n) := by
  rw [Files.probe, Files.probe, hs.tree, Files.find_child_without htree hdir
    (fun _ => hs.removable_of_mem) hn]

/-- What a plain pattern does with the file of its name: nothing if the file went before or is not
there, a removal if it is there, and an end of the sweep if the name is too long. -/
theorem tryEnd_cases {base pattern : Text} (hcomponent : Path.IsComponent (base ++ '.' :: pattern))
    (hs : Swept files directory place asked s) (hn : n = base ++ '.' :: pattern) :
    (n ∈ s.outcome.deleted ∨ files.probe (directory.child n) = .ok false) ∧
        s.tryEnd directory base pattern = s ∨
      n ∉ s.outcome.deleted ∧ files.probe (directory.child n) = .ok true ∧
        s.tryEnd directory base pattern = s.unlink (directory.child n) ∨
      files.probe (directory.child n) = .error .nameTooLong ∧
        s.tryEnd directory base pattern = { s with stop := some .nameTooLong } := by
  subst hn
  simp only [Sweep.tryEnd, Path.join_ofText hcomponent, Path.name_child, List.contains_iff_mem]
  by_cases hgone : base ++ '.' :: pattern ∈ s.outcome.deleted
  · exact .inl ⟨.inl hgone, if_pos hgone⟩
  · rw [if_neg hgone, hs.probe_child htree hdir hgone]
    cases hfound : files.probe (directory.child (base ++ '.' :: pattern)) with
    | error e =>
      obtain ⟨rfl, -⟩ := (Files.probe_child_eq_error_iff htree hdir).mp hfound
      exact .inr (.inr ⟨rfl, rfl⟩)
    | ok found =>
      cases found with
      | false => exact .inl ⟨.inr rfl, rfl⟩
      | true => exact .inr (.inl ⟨hgone, rfl, rfl⟩)

/-- The file of the document with some end is asked for. Unless the file is removed here, nothing
new is asked for that could be. -/
theorem tryEnd {base pattern : Text} (hpattern : isNamePattern pattern = false)
    (hcomponent : Path.IsComponent (base ++ '.' :: pattern))
    (hs : Swept files directory place asked s) :
    Swept files directory place (fun m => asked m ∨ asksFor base pattern m = true)
        (s.tryEnd directory base pattern) ∧
      (s.tryEnd directory base pattern).stop =
        if Files.childProblem? directory (base ++ '.' :: pattern) = some .nameTooLong then
          some .nameTooLong
        else s.stop := by
  have hasks : ∀ m, asksFor base pattern m = true ↔ m = base ++ '.' :: pattern := by
    simp [asksFor, hpattern]
  have hcases := hs.tryEnd_cases htree hdir hcomponent rfl
  have hlong := Files.probe_child_eq_error_iff htree hdir (n := base ++ '.' :: pattern)
    (e := .nameTooLong)
  generalize base ++ '.' :: pattern = n at hasks hcases hlong
  have hthere (h : files.Removable directory n) : files.probe (directory.child n) = .ok true :=
    Files.probe_of_removable htree hdir h
  have hkeep (h : files.Removable directory n → n ∈ s.outcome.deleted) :
      Swept files directory place (fun m => asked m ∨ asksFor base pattern m = true) s := by
    refine hs.congr fun m hm => ⟨.inl, ?_⟩
    rintro (hasked | hmn)
    · exact hasked
    · obtain rfl := (hasks m).mp hmn
      exact ((hs.deleted m).mp (h hm)).2
  have hshort {found : Bool} (h : files.probe (directory.child n) = .ok found) :
      ¬ Files.childProblem? directory n = some .nameTooLong := by
    intro hproblem
    rw [hlong.mpr ⟨rfl, hproblem⟩] at h
    cases h
  rcases hcases with ⟨hgone | hnone, heq⟩ | ⟨hleft, hfound, heq⟩ | ⟨hfound, heq⟩ <;> rw [heq]
  · rw [if_neg (hshort (hthere (hs.removable_of_mem hgone)))]
    exact ⟨hkeep fun _ => hgone, rfl⟩
  · rw [if_neg (hshort hnone)]
    refine ⟨hkeep fun h => ?_, rfl⟩
    rw [hthere h] at hnone
    cases hnone
  · rw [if_neg (hshort hfound)]
    exact ⟨(hs.unlink htree hdir hleft).congr fun m _ => or_congr_right (hasks m).symm,
      stop_unlink s _⟩
  · rw [if_pos (hlong.mp hfound).2]
    have hkept := hkeep fun h => by
      rw [hthere h] at hfound
      cases hfound
    exact ⟨⟨hkept.tree, hkept.deleted, hkept.nodup⟩, rfl⟩

end Swept

/-! ## Whole sweeps -/

theorem stop_foldl_tryName (directory : Path) (base pattern : Text) (names : List Text)
    (s : Sweep) : (names.foldl (Sweep.tryName directory base pattern) s).stop = s.stop := by
  induction names generalizing s with
  | nil => rfl
  | cons name names ih =>
    rw [List.foldl_cons, ih, Sweep.tryName]
    split
    · rfl
    · split
      · exact stop_unlink s _
      · rfl

/-- Nothing is done after a sweep has ended. -/
theorem foldl_tryPattern_of_stop {s : Sweep} (hstop : s.stop.isSome = true) (directory : Path)
    (base : Text) (names patterns : List Text) :
    patterns.foldl (Sweep.tryPattern directory base names) s = s := by
  induction patterns with
  | nil => rfl
  | cons p patterns ih => rw [List.foldl_cons, Sweep.tryPattern, if_pos hstop, ih]

namespace Swept

variable {files : Files} {tex : Path} {place : Place} {asked : Text → Prop} {s : Sweep}
  {names : List Text} (htree : files.IsTree)
  (hdir : files.find tex.parent = .ok (place, .directory))
  (hnames : ∀ n, files.Removable tex.parent n → n ∈ names)

include htree hdir hnames

/-- Everything that a pattern asks for is removed, if it can be. -/
theorem tryPattern {pattern : Text}
    (hcomponent : Path.IsComponent (tex.stem ++ '.' :: pattern))
    (hs : Swept files tex.parent place asked s) (hstop : s.stop = none) :
    Swept files tex.parent place (fun n => asked n ∨ asksFor tex.stem pattern n = true)
        (s.tryPattern tex.parent tex.stem names pattern) ∧
      (s.tryPattern tex.parent tex.stem names pattern).stop =
        if isOverlong tex pattern then some .nameTooLong else none := by
  rw [Sweep.tryPattern, if_neg (by simp [hstop])]
  cases hpattern : isNamePattern pattern with
  | true =>
    rw [if_pos rfl, stop_foldl_tryName, hstop, isOverlong, hpattern]
    refine ⟨(hs.foldl_tryName htree hdir hpattern names).congr fun n hn => ?_, rfl⟩
    rw [and_iff_right (hnames n hn)]
  | false =>
    rw [if_neg (by simp), isOverlong, hpattern]
    simpa [hstop] using hs.tryEnd htree hdir hpattern hcomponent

/-- A file with too long a name cannot be removed, so nothing is asked for in vain. -/
theorem foldl_tryPattern {patterns : List Text}
    (hcomponent : ∀ p ∈ patterns, Path.IsComponent (tex.stem ++ '.' :: p))
    (hs : Swept files tex.parent place asked s) (hstop : s.stop = none) :
    Swept files tex.parent place
        (fun n => asked n ∨ ∃ p ∈ carriedOut tex patterns, asksFor tex.stem p n = true)
        (patterns.foldl (Sweep.tryPattern tex.parent tex.stem names) s) ∧
      (patterns.foldl (Sweep.tryPattern tex.parent tex.stem names) s).stop =
        if patterns.any (isOverlong tex) then some .nameTooLong else none := by
  induction patterns generalizing s asked with
  | nil => exact ⟨hs.congr fun n _ => by simp [carriedOut], hstop⟩
  | cons p patterns ih =>
    obtain ⟨hp, hpatterns⟩ := List.forall_mem_cons.mp hcomponent
    obtain ⟨hs', hstop'⟩ := hs.tryPattern htree hdir hnames hp hstop
    rw [List.foldl_cons]
    cases hlong : isOverlong tex p with
    | true =>
      rw [hlong, if_pos rfl] at hstop'
      rw [foldl_tryPattern_of_stop (by simp [hstop'])]
      refine ⟨hs'.congr fun n hn => ?_, by simp [hstop', hlong]⟩
      rw [carriedOut_cons_of_isOverlong hlong, not_asksFor_of_isOverlong htree hdir hlong hn]
      simp
    | false =>
      rw [hlong] at hstop'
      obtain ⟨hrest, hstop''⟩ := ih hpatterns hs' hstop'
      refine ⟨hrest.congr fun n _ => ?_, by simpa [hlong] using hstop''⟩
      rw [carriedOut_cons_of_not_isOverlong hlong, or_assoc]
      simp

end Swept

section Sweeps

variable {files : Files} {tex : Path} {patterns : List Text} {entries : List (Text × Node)}

/-- What a plain pattern asks for is the name of a file. -/
theorem isComponent_of_plain (hclean : tex.IsClean) (hname : tex.name ≠ []) {p : Text}
    (hp : '/' ∉ p) : Path.IsComponent (tex.stem ++ '.' :: p) := by
  have hstem : tex.stem ≠ [] := Path.stem_ne_nil hname
  have hslash : '/' ∉ tex.stem := fun h => hclean.slash_not_mem_name (Path.mem_name_of_mem_stem h)
  obtain ⟨c, base, hbase⟩ := List.exists_cons_of_ne_nil hstem
  exact ⟨by simp, by simp [hbase, Path.dot], by simp [hslash, hp]⟩

/-- A file that can be removed is among those that the directory has at first. -/
theorem mem_fileNames {directory : Path} {place : Place} (htree : files.IsTree)
    (hdir : files.find directory = .ok (place, .directory)) {n : Text}
    (hn : files.Removable directory n) : n ∈ fileNames (files.entriesAt place) := by
  obtain ⟨-, -, -, data, hnode⟩ := (Files.removable_iff htree hdir).mp hn
  exact List.mem_filterMap.mpr ⟨(n, .file data), Files.mem_entriesAt hnode, rfl⟩

/-- A whole sweep removes what the patterns ask for that are carried out. -/
theorem swept_sweep (htree : files.IsTree) (hlist : files.list tex.parent = .ok entries)
    (hclean : tex.IsClean) (hname : tex.name ≠ []) (hne : patterns ≠ [])
    (hslash : ∀ p ∈ patterns, '/' ∉ p) :
    ∃ place s, files.find tex.parent = .ok (place, .directory) ∧ sweep files tex patterns = .ok s ∧
      Swept files tex.parent place
        (fun n => ∃ p ∈ carriedOut tex patterns, asksFor tex.stem p n = true) s ∧
      s.stop = if patterns.any (isOverlong tex) then some .nameTooLong else none := by
  obtain ⟨place, hdir, rfl⟩ := Files.exists_of_list hlist
  obtain ⟨hswept, hstop⟩ := (Swept.start files tex.parent place).foldl_tryPattern htree hdir
    (fun n hn => mem_fileNames htree hdir hn)
    (fun p hp => isComponent_of_plain hclean hname (hslash p hp)) rfl
  refine ⟨place, _, hdir, ?_, hswept.congr fun n _ => by simp, hstop⟩
  rw [sweep, if_neg (by simpa using hne), hlist]

/-- **A sweep removes what is asked for.** Beside a document, a sweep removes exactly the files that
can be removed and for which some pattern asks: a pattern with wildcards or with the name of the
document asks for what it describes, sources and finished documents apart, and a plain pattern for
the file of the document with that end. Each of them is reported once and everything else stays. The
order of the patterns and their number do not matter, and a second sweep removes nothing.

This holds of the patterns up to the first plain one whose file has a name that is too long to be
looked up. Such a pattern ends the sweep with an error, and the patterns behind it are not carried
out. -/
theorem deleted_iff_asked (htree : files.IsTree) (hlist : files.list tex.parent = .ok entries)
    (hclean : tex.IsClean) (hname : tex.name ≠ []) (hne : patterns ≠ [])
    (hslash : ∀ p ∈ patterns, '/' ∉ p) :
    ∃ s, sweep files tex patterns = .ok s ∧
      s.stop = (if patterns.any (isOverlong tex) then some .nameTooLong else none) ∧
      (∀ n, n ∈ s.outcome.deleted ↔ files.Removable tex.parent n ∧
        ∃ p ∈ carriedOut tex patterns, asksFor tex.stem p n = true) ∧
      s.outcome.deleted.Nodup ∧
      (∀ n ∈ s.outcome.deleted, ∃ place,
        files.locate (tex.parent.child n) = .ok place ∧ s.files.node? place = none) ∧
      (∀ place, (∀ n ∈ s.outcome.deleted, files.locate (tex.parent.child n) ≠ .ok place) →
        s.files.node? place = files.node? place) ∧
      ((∀ p ∈ patterns, isOverlong tex p = false) → carriedOut tex patterns = patterns ∧
        ∀ patterns', (∀ p, p ∈ patterns' ↔ p ∈ patterns) →
          ∃ s', sweep files tex patterns' = .ok s' ∧
            ∀ n, n ∈ s'.outcome.deleted ↔ n ∈ s.outcome.deleted) ∧
      ∃ again, sweep s.files tex patterns = .ok again ∧ again.outcome.deleted = [] := by
  obtain ⟨place, s, hdir, hs, hswept, hstop⟩ :=
    swept_sweep htree hlist hclean hname hne hslash
  have hlocate : ∀ n ∈ s.outcome.deleted,
      files.locate (tex.parent.child n) = .ok (place ++ [n]) := by
    intro n hn
    obtain ⟨data, hfind⟩ := Files.find_of_removable htree hdir (hswept.removable_of_mem hn)
    exact (Files.locate_of_find hfind).1
  refine ⟨s, hs, hstop, hswept.deleted, hswept.nodup, fun n hn => ⟨_, hlocate n hn, ?_⟩,
    fun other hother => ?_, fun hshort => ⟨carriedOut_eq_self hshort, fun patterns' hsame => ?_⟩, ?_⟩
  · rw [hswept.tree, Files.node?_without_of_mem hn]
  · rw [hswept.tree]
    refine Files.node?_without_of_forall_ne fun n hn heq => hother n hn ?_
    rw [hlocate n hn, heq]
  · have hne' : patterns' ≠ [] := by
      obtain ⟨p, hp⟩ := List.exists_mem_of_ne_nil patterns hne
      exact List.ne_nil_of_mem ((hsame p).mpr hp)
    obtain ⟨_, s', -, hs', hswept', -⟩ := swept_sweep htree hlist hclean hname hne'
      fun p hp => hslash p ((hsame p).mp hp)
    refine ⟨s', hs', fun n => ?_⟩
    rw [hswept'.deleted, hswept.deleted, carriedOut_eq_self hshort,
      carriedOut_eq_self fun p hp => hshort p ((hsame p).mp hp)]
    simp only [hsame]
  · have hdir' := hswept.find_directory htree hdir
    obtain ⟨_, again, -, hagain, hswept', -⟩ := swept_sweep (hswept.isTree htree hdir)
      (Files.list_of_find hdir') hclean hname hne hslash
    refine ⟨again, hagain, List.eq_nil_iff_forall_not_mem.mpr fun n hn => ?_⟩
    obtain ⟨hremovable, hasked⟩ := (hswept'.deleted n).mp hn
    obtain ⟨hthere, hleft⟩ := (hswept.removable_iff htree hdir).mp hremovable
    exact hleft ((hswept.deleted n).mpr ⟨hthere, hasked⟩)

/-- One file is pinned, one belongs to another document, and two are protected. -/
theorem deleted_beside_pinned_file :
    let files : Files :=
      { nodes := [(["main.tex".toList], .file .empty), (["main.pdf".toList], .file .empty),
          (["main.aux".toList], .file .empty), (["main-blx.bib".toList], .file .empty),
          (["notes.tmp".toList], .file .empty), (["other.aux".toList], .file .empty)]
        pinned := [["notes.tmp".toList]] }
    let tex := Path.ofString "main.tex"
    let patterns := ["*.tmp", "main.*", "aux", "\x7bbasename\x7d-blx.bib"].map String.toList
    ∃ s, sweep files tex patterns = .ok s ∧ s.stop = none ∧
      "main.aux".toList ∈ s.outcome.deleted ∧ "main-blx.bib".toList ∈ s.outcome.deleted ∧
      "notes.tmp".toList ∉ s.outcome.deleted ∧ "main.pdf".toList ∉ s.outcome.deleted ∧
      "other.aux".toList ∉ s.outcome.deleted ∧
      ∃ again, sweep s.files tex patterns = .ok again ∧ again.outcome.deleted = [] := by
  intro files tex patterns
  have htree : files.IsTree := Files.isTree_of_forall_nodes (by decide +kernel)
  have hdir : files.find tex.parent = .ok ([], .directory) := rfl
  have hshort : patterns.any (isOverlong tex) = false := by decide +kernel
  have hclean : tex.IsClean := Path.isClean_ofText _
  obtain ⟨s, hs, hstop, hdeleted, -, -, -, -, again, hagain, hnothing⟩ :=
    deleted_iff_asked htree (Files.list_of_find hdir) hclean (by decide) (by decide)
      (by decide : ∀ p ∈ patterns, '/' ∉ p)
  rw [hshort] at hstop
  have hcarried : carriedOut tex patterns = patterns := by decide +kernel
  have hstem : tex.stem = "main".toList := by decide
  rw [hcarried, hstem] at hdeleted
  have hpdf : ∀ p ∈ patterns, asksFor "main".toList p "main.pdf".toList = false := by
    decide +kernel
  have hother : ∀ p ∈ patterns, asksFor "main".toList p "other.aux".toList = false := by
    simp only [patterns, List.map_cons, List.map_nil, List.forall_mem_cons]
    exact ⟨by cbv, by cbv, by decide +kernel, by cbv, by simp⟩
  have hleft {n : Text} (hn : ∀ p ∈ patterns, asksFor "main".toList p n = false) :
      n ∉ s.outcome.deleted := by
    intro h
    obtain ⟨p, hp, hasks⟩ := ((hdeleted n).mp h).2
    rw [hn p hp] at hasks
    cases hasks
  refine ⟨s, hs, hstop, ?_, ?_, ?_, hleft hpdf, hleft hother, again, hagain, hnothing⟩
  · exact (hdeleted _).mpr ⟨⟨_, rfl⟩, "aux".toList, by decide +kernel, by decide +kernel⟩
  · exact (hdeleted _).mpr
      ⟨⟨_, rfl⟩, "\x7bbasename\x7d-blx.bib".toList, by decide +kernel, by cbv⟩
  · intro h
    obtain ⟨u, hu⟩ := ((hdeleted _).mp h).1
    cases hu

/-- The document has the longest name that a file can have, so the archive beside it would have a
longer one. Looking it up ends the sweep, and the file that the other pattern asks for stays, unless
that pattern comes first. -/
theorem kept_behind_long_name :
    let base := List.replicate 251 'a'
    let source := base ++ ".tex".toList
    let aux := base ++ ".aux".toList
    let files : Files := { nodes := [([source], .file .empty), ([aux], .file .empty)] }
    let tex : Path := ⟨.relative, [source]⟩
    ∃ s s', sweep files tex ["synctex.gz".toList, "aux".toList] = .ok s ∧
      sweep files tex ["aux".toList, "synctex.gz".toList] = .ok s' ∧
      files.Removable tex.parent aux ∧ asksFor tex.stem "aux".toList aux = true ∧
      s.stop = some .nameTooLong ∧ aux ∉ s.outcome.deleted ∧ aux ∈ s'.outcome.deleted := by
  intro base source aux files tex
  have htree : files.IsTree := Files.isTree_of_forall_nodes (by decide +kernel)
  have hdir : files.find tex.parent = .ok ([], .directory) := rfl
  have hclean : tex.IsClean := by
    intro n hn
    obtain rfl := List.mem_singleton.mp hn
    exact ⟨by decide +kernel, by decide +kernel, by decide +kernel⟩
  have hname : tex.name ≠ [] := by decide +kernel
  have haux : files.Removable tex.parent aux := by
    refine (Files.removable_iff htree hdir).mpr
      ⟨by decide +kernel, by decide +kernel, by decide +kernel, .empty, ?_⟩
    have hne : (aux == source) = false := by decide +kernel
    simp [Files.node?, files, List.lookup_cons, hne]
  have hasks : asksFor tex.stem "aux".toList aux = true := by decide +kernel
  obtain ⟨_, s, -, hs, hswept, hstop⟩ := swept_sweep htree (Files.list_of_find hdir) hclean hname
    (by decide) (by decide : ∀ p ∈ ["synctex.gz".toList, "aux".toList], '/' ∉ p)
  obtain ⟨_, s', -, hs', hswept', -⟩ := swept_sweep htree (Files.list_of_find hdir) hclean hname
    (by decide) (by decide : ∀ p ∈ ["aux".toList, "synctex.gz".toList], '/' ∉ p)
  have hcarried : carriedOut tex ["synctex.gz".toList, "aux".toList] = [] := by decide +kernel
  have hcarried' : carriedOut tex ["aux".toList, "synctex.gz".toList] = ["aux".toList] := by
    decide +kernel
  have hlong : ["synctex.gz".toList, "aux".toList].any (isOverlong tex) = true := by
    decide +kernel
  refine ⟨s, s', hs, hs', haux, hasks, ?_, ?_, ?_⟩
  · rw [hstop, hlong, if_pos rfl]
  · rw [hswept.deleted, hcarried]
    simp
  · rw [hswept'.deleted, hcarried']
    exact ⟨haux, _, List.mem_singleton_self _, hasks⟩

end Sweeps

end Typeset.Cleanup
