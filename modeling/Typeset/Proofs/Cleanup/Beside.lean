import Typeset.Cleanup.Sweep
import Typeset.Proofs.Files.Removal
import Typeset.Proofs.Path.Written

/-!
# Where a sweep removes files

A pattern with wildcards is held against the names in the directory of the document, and a plain
pattern without a slash makes one name more. So what they ask for lies beside the document, if it is
a file at all. A plain pattern with a slash is a path. The name of the document with a dot stands
before it, but if there is a directory of such a name, the path leads into it, and with `..` out of
it again to any place in the tree.

A sweep removes files one after another, so what a path leads to is looked up in a tree from which
some are gone already. Since only files go, it is what the path led to at first.

## Main definitions

* `Cleanup.InReach`: a place from which a sweep may remove a file

## Main results

* `Cleanup.Sweep.thinned_tryName`, `Cleanup.Sweep.thinned_tryEnd`: the steps of a sweep
* `Cleanup.removed_in_reach`: a whole sweep
* `Cleanup.removed_elsewhere`: a sweep that removes a file of another document
-/

namespace Typeset.Cleanup

/-- A place from which a sweep may remove a file: right inside the directory of the document, which
is at `place`, or where a plain pattern with a slash leads. -/
def InReach (files : Files) (tex : Path) (patterns : List Text) (place other : Place) : Prop :=
  (∃ n, other = place ++ [n]) ∨
    ∃ p ∈ patterns, isNamePattern p = false ∧ '/' ∈ p ∧
      files.locate (tex.parent.join (.ofText (tex.stem ++ '.' :: p))) = .ok other

/-! ## Steps -/

namespace Sweep

variable {files : Files} {gone : Place → Prop} {s : Sweep} {directory : Path} {place : Place}

theorem thinned_unlink (hs : files.Thinned gone s.files) {p : Path}
    (hgone : ∀ place data, files.find p = .ok (place, .file data) → gone place) :
    files.Thinned gone (s.unlink p).files := by
  unfold unlink
  split
  · next hu => exact hs.unlink hu hgone
  · exact hs

variable (htree : files.IsTree) (hdir : files.find directory = .ok (place, .directory))
  (hinside : ∀ n, gone (place ++ [n]))
include htree hdir hinside

theorem thinned_unlink_child (hs : files.Thinned gone s.files) (n : Text) :
    files.Thinned gone (s.unlink (directory.child n)).files := by
  refine thinned_unlink hs fun other data hfind => ?_
  rw [Files.place_of_find_child htree hdir hfind]
  exact hinside n

theorem thinned_tryName (hs : files.Thinned gone s.files) (base pattern name : Text) :
    files.Thinned gone (s.tryName directory base pattern name).files := by
  unfold tryName
  split
  · exact hs
  · split
    · exact thinned_unlink_child htree hdir hinside hs name
    · exact hs

/-- A plain pattern asks for a file in the directory if it has no slash, and for one where its path
leads if it has. -/
theorem thinned_tryEnd (hs : files.Thinned gone s.files) {base pattern : Text} (hbase : '/' ∉ base)
    (hslash : '/' ∈ pattern → ∀ other,
      files.locate (directory.join (.ofText (base ++ '.' :: pattern))) = .ok other → gone other) :
    files.Thinned gone (s.tryEnd directory base pattern).files := by
  have hunlink : files.Thinned gone
      (s.unlink (directory.join (.ofText (base ++ '.' :: pattern)))).files := by
    by_cases hp : '/' ∈ pattern
    · exact thinned_unlink hs fun other data hfind => hslash hp other (Files.locate_of_find hfind).1
    · rw [Path.join_ofText_of_slash_not_mem (by simp) (by simp [hbase, hp])]
      split
      · refine thinned_unlink hs fun other data hfind => ?_
        rw [hdir] at hfind
        cases hfind
      · exact thinned_unlink_child htree hdir hinside hs _
  simp only [tryEnd]
  split
  · exact hs
  · split
    · exact hunlink
    · exact hs
    · exact hs

/-- A pattern is carried out. -/
theorem thinned_tryPattern (hs : files.Thinned gone s.files) {base pattern : Text}
    (hbase : '/' ∉ base) (names : List Text)
    (hslash : isNamePattern pattern = false → '/' ∈ pattern → ∀ other,
      files.locate (directory.join (.ofText (base ++ '.' :: pattern))) = .ok other → gone other) :
    files.Thinned gone (s.tryPattern directory base names pattern).files := by
  unfold tryPattern
  split
  · exact hs
  · split
    · refine List.foldlRecOn (motive := fun s : Sweep => files.Thinned gone s.files) _ _ hs ?_
      exact fun s' hs' name _ => thinned_tryName htree hdir hinside hs' base pattern name
    · next hplain =>
      exact thinned_tryEnd htree hdir hinside hs hbase (hslash (by simpa using hplain))

end Sweep

/-! ## Whole sweeps -/

variable {files : Files} {tex : Path} {patterns : List Text}

/-- **A sweep removes files beside the document, and where plain patterns with a slash lead.** It is
carried out if the directory of the document can be listed. It changes nothing but that some files
are gone, each from the directory of the document itself or from where a plain pattern with a slash
in it leads. If no plain pattern has a slash, nothing outside of the directory is touched. -/
theorem removed_in_reach (htree : files.IsTree) (hclean : tex.IsClean) (hne : patterns ≠ []) :
    ((∃ s, sweep files tex patterns = .ok s) ↔ ∃ entries, files.list tex.parent = .ok entries) ∧
      ∀ s, sweep files tex patterns = .ok s →
        ∃ place, files.find tex.parent = .ok (place, .directory) ∧
          (∀ other, s.files.node? other = files.node? other ∨
            s.files.node? other = none ∧ (∃ data, files.node? other = some (.file data)) ∧
              InReach files tex patterns place other) ∧
          ((∀ p ∈ patterns, isNamePattern p = false → '/' ∉ p) →
            ∀ other, (∀ n, other ≠ place ++ [n]) → s.files.node? other = files.node? other) := by
  have hbase : '/' ∉ tex.stem := fun h => hclean.slash_not_mem_name (Path.mem_name_of_mem_stem h)
  rw [sweep, if_neg (by simpa using hne)]
  cases hlist : files.list tex.parent with
  | error e => simp
  | ok entries =>
    refine ⟨by simp, fun s hs => ?_⟩
    cases hs
    obtain ⟨place, hdir, -⟩ := Files.exists_of_list hlist
    have hthinned : files.Thinned (InReach files tex patterns place)
        (patterns.foldl (Sweep.tryPattern tex.parent tex.stem (fileNames entries))
          { files := files }).files := by
      refine List.foldlRecOn
        (motive := fun s : Sweep => files.Thinned (InReach files tex patterns place) s.files) _ _
        (.refl files _) fun s hs p hp => ?_
      exact Sweep.thinned_tryPattern htree hdir (fun n => .inl ⟨n, rfl⟩) hs hbase _
        fun hplain hslash other hlocate => .inr ⟨p, hp, hplain, hslash, hlocate⟩
    refine ⟨place, hdir, hthinned.node?, fun hnone other hother => ?_⟩
    rcases hthinned.node? other with heq | ⟨-, -, ⟨n, rfl⟩ | ⟨p, hp, hplain, hslash, -⟩⟩
    · exact heq
    · exact absurd rfl (hother n)
    · exact absurd hslash (hnone p hp hplain)

/-- A file in a subdirectory and one of another document have names that a pattern describes, and
stay. -/
theorem removed_in_reach_of_extension :
    let files : Files :=
      { nodes := [(["paper".toList], .directory),
          (["paper".toList, "main.tex".toList], .file .empty),
          (["paper".toList, "main.aux".toList], .file .empty),
          (["paper".toList, "old".toList], .directory),
          (["paper".toList, "old".toList, "main.aux".toList], .file .empty),
          (["main.aux".toList], .file .empty)] }
    let tex := Path.ofString "paper/main.tex"
    let patterns := ["aux", "*.aux"].map String.toList
    (files.IsTree ∧ tex.IsClean ∧ patterns ≠ []) ∧
      ∃ s, sweep files tex patterns = .ok s ∧
        s.files.node? ["paper".toList, "old".toList, "main.aux".toList] = some (.file .empty) ∧
        s.files.node? ["main.aux".toList] = some (.file .empty) := by
  intro files tex patterns
  have htree : files.IsTree := Files.isTree_of_forall_nodes (by decide +kernel)
  have hclean : tex.IsClean := Path.isClean_ofText _
  have hdir : files.find tex.parent = .ok (["paper".toList], .directory) := rfl
  obtain ⟨hsome, hreach⟩ := removed_in_reach htree hclean (by decide : patterns ≠ [])
  obtain ⟨s, hs⟩ := hsome.mpr ⟨_, Files.list_of_find hdir⟩
  obtain ⟨place, hplace, -, hkept⟩ := hreach s hs
  rw [hdir] at hplace
  cases hplace
  have hkept := hkept (by decide)
  exact ⟨⟨htree, hclean, by decide⟩, s, hs, hkept _ (by simp), hkept _ (by simp)⟩

/-- A directory lies beside the document and has its name before the dot. A pattern with a slash
takes a file out of it, and another one goes through it to a document elsewhere. -/
theorem removed_elsewhere :
    let files : Files :=
      { nodes := [(["paper".toList], .directory),
          (["paper".toList, "main.tex".toList], .file .empty),
          (["paper".toList, "main.d".toList], .directory),
          (["paper".toList, "main.d".toList, "notes.txt".toList], .file .empty),
          (["thesis".toList], .directory),
          (["thesis".toList, "draft.txt".toList], .file .empty)] }
    let tex := Path.ofString "paper/main.tex"
    let patterns := ["d/notes.txt", "d/../../thesis/draft.txt"].map String.toList
    let notes : Place := ["paper".toList, "main.d".toList, "notes.txt".toList]
    let draft : Place := ["thesis".toList, "draft.txt".toList]
    files.find tex.parent = .ok (["paper".toList], .directory) ∧
      files.node? notes = some (.file .empty) ∧ files.node? draft = some (.file .empty) ∧
      ∃ s, sweep files tex patterns = .ok s ∧
        s.files.node? notes = none ∧ s.files.node? draft = none := by
  intro files tex patterns notes draft
  have hgone : ((sweep files tex patterns).toOption.map fun s =>
      ((s.files.node? notes).isNone, (s.files.node? draft).isNone)) = some (true, true) := by
    decide +kernel
  cases hs : sweep files tex patterns with
  | error e =>
    rw [hs] at hgone
    cases hgone
  | ok s =>
    rw [hs] at hgone
    obtain ⟨hnotes, hdraft⟩ := Prod.mk.inj (Option.some.inj hgone)
    exact ⟨rfl, rfl, rfl, s, rfl, Option.isNone_iff_eq_none.mp hnotes,
      Option.isNone_iff_eq_none.mp hdraft⟩

end Typeset.Cleanup
