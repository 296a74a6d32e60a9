import Mathlib.Data.List.Infix
import Mathlib.Data.List.Nodup
import Typeset.Files

/-!
# Removing files from a directory

Files go one after another from a directory that stays where it is: the removal of files touches no
directory, so every path to a directory leads where it led before, and every other entry of the
directory can be found as before. Whether one of the files can be removed depends on the file alone,
not on those that went before it.

## Main definitions

* `Files.IsTree`: every directory lies in a directory
* `Files.childProblem?`: what keeps a name from being looked up in a directory
* `Files.Removable`: a file can be removed from a directory
* `Files.without`: a tree without some entries of a directory
* `Files.Thinned`: a tree from which files are gone

## Main results

* `Files.find_child`: what a name in a directory leads to
* `Files.removable_iff`, `Files.unlink_child`: the removal of a file
* `Files.removable_without`: other files may go before
* `Files.Thinned.find`, `Files.Thinned.unlink`: paths lead where they led, while files go
-/

namespace Typeset.Files

variable {t t' : Files} {directory : Path} {place : Place} {n : Text}

/-! ## Directories -/

/-- Every directory lies in a directory. -/
def IsTree (t : Files) : Prop :=
  ∀ place, t.isDirectoryAt place = true → t.isDirectoryAt place.dropLast = true

theorem isDirectoryAt_iff : t.isDirectoryAt place = true ↔ t.node? place = some .directory := by
  unfold isDirectoryAt
  rcases t.node? place with _ | _ | _ <;> simp [Node.isDirectory]

theorem isTree_of_forall_nodes (h : ∀ e ∈ t.nodes, t.isDirectoryAt e.1.dropLast = true) :
    t.IsTree := by
  intro place hplace
  by_cases hnil : place = []
  · subst hnil
    exact hplace
  · rw [isDirectoryAt_iff, node?, if_neg hnil, List.lookup_eq_some_iff] at hplace
    obtain ⟨before, after, hsplit, -⟩ := hplace
    exact h (place, .directory) (by simp [hsplit])

/-- Where names lead to a directory, they start from one. -/
theorem isDirectoryAt_of_follow {start : Place} {names : List Text}
    (h : t.follow start names = .ok place) (hplace : t.isDirectoryAt place = true) :
    t.isDirectoryAt start = true := by
  cases names with
  | nil =>
    cases h
    exact hplace
  | cons n names =>
    rw [follow] at h
    split at h
    · cases h
    · next hstart => simpa using hstart

/-- Directories are found by way of directories alone. -/
theorem follow_congr (hdirs : ∀ place, t'.isDirectoryAt place = t.isDirectoryAt place)
    {start : Place} {names : List Text} (h : t.follow start names = .ok place)
    (hplace : t.isDirectoryAt place = true) : t'.follow start names = .ok place := by
  induction names generalizing start with
  | nil => exact h
  | cons n names ih =>
    have hstart := isDirectoryAt_of_follow h hplace
    have hstart' : t'.isDirectoryAt start = true := (hdirs start).trans hstart
    simp only [follow, hstart, hstart', Bool.not_true, Bool.false_eq_true, if_false] at h ⊢
    split at h
    · next hn => rw [if_pos hn, ih h]
    · next hn =>
      rw [if_neg hn]
      split at h
      · cases h
      · next hbytes =>
        rw [if_neg hbytes]
        split at h
        · have hnext := (hdirs _).trans (isDirectoryAt_of_follow h hplace)
          rw [isDirectoryAt_iff] at hnext
          rw [if_pos (by simp [hnext]), ih h]
        · cases h

theorem locate_of_find {p : Path} {x : Node} (h : t.find p = .ok (place, x)) :
    t.locate p = .ok place ∧ t.node? place = some x := by
  unfold find at h
  cases hl : t.locate p with
  | error e => rw [hl] at h; cases h
  | ok place' =>
    rw [hl] at h
    cases hx : t.node? place' with
    | none => simp [bind, Except.bind, hx, throw, throwThe, MonadExceptOf.throw] at h
    | some x' =>
      simp only [bind, Except.bind, hx, pure, Except.pure, Except.ok.injEq, Prod.mk.injEq] at h
      obtain ⟨rfl, rfl⟩ := h
      exact ⟨rfl, hx⟩

theorem find_of_locate {p : Path} {x : Node} (h : t.locate p = .ok place)
    (hx : t.node? place = some x) : t.find p = .ok (place, x) := by
  simp [find, bind, Except.bind, h, hx, pure, Except.pure]

theorem locate_eq_follow {p : Path} (h : t.locate p = .ok place) :
    p.isNameable = true ∧ p.str.utf8ByteSize ≤ mostPathBytes ∧
      t.follow (t.origin p) p.parts = .ok place := by
  unfold locate at h
  split at h
  · cases h
  · next hname =>
    split at h
    · cases h
    · next hbytes => exact ⟨by simpa using hname, Nat.le_of_not_lt hbytes, h⟩

theorem find_directory_congr (hcwd : t'.cwd = t.cwd)
    (hdirs : ∀ place, t'.isDirectoryAt place = t.isDirectoryAt place)
    (h : t.find directory = .ok (place, .directory)) :
    t'.find directory = .ok (place, .directory) := by
  obtain ⟨hlocate, hnode⟩ := locate_of_find h
  obtain ⟨hname, hbytes, hfollow⟩ := locate_eq_follow hlocate
  have hplace : t.isDirectoryAt place = true := isDirectoryAt_iff.mpr hnode
  refine find_of_locate ?_ (isDirectoryAt_iff.mp ((hdirs place).trans hplace))
  rw [locate, hname, if_neg (by simp), if_neg (Nat.not_lt.mpr hbytes), origin, hcwd]
  exact follow_congr hdirs hfollow hplace

/-! ## Entries of a directory -/

/-- What keeps a name from being looked up in a directory, whatever is in the directory. -/
def childProblem? (directory : Path) (n : Text) : Option FileError :=
  if !(directory.child n).isNameable then some .unnameable
  else if mostPathBytes < (directory.child n).str.utf8ByteSize then some .nameTooLong
  else if mostNameBytes < (Text.str n).utf8ByteSize then some .nameTooLong
  else none

theorem follow_append (t : Files) (start : Place) (names more : List Text) :
    t.follow start (names ++ more) = (t.follow start names).bind (t.follow · more) := by
  induction names generalizing start with
  | nil => rfl
  | cons n names ih =>
    simp only [List.cons_append, follow, ih]
    split
    · rfl
    · split
      · rfl
      · split
        · rfl
        · split <;> rfl

theorem locate_child (h : t.find directory = .ok (place, .directory)) (n : Text) :
    t.locate (directory.child n) =
      if !(directory.child n).isNameable then .error .unnameable
      else if mostPathBytes < (directory.child n).str.utf8ByteSize then .error .nameTooLong
      else t.follow place [n] := by
  obtain ⟨-, -, hfollow⟩ := locate_eq_follow (locate_of_find h).1
  have hchild : t.follow (t.origin (directory.child n)) (directory.child n).parts =
      t.follow place [n] := by
    rw [Path.child, follow_append]
    exact congrArg (Except.bind · _) hfollow
  rw [locate, hchild]

/-- What a name in a directory leads to. -/
theorem find_child (h : t.find directory = .ok (place, .directory)) (hn : n ≠ Path.dotDot) :
    t.find (directory.child n) =
      match childProblem? directory n with
      | some e => .error e
      | none =>
        match t.node? (place ++ [n]) with
        | some x => .ok (place ++ [n], x)
        | none => .error .missing := by
  have hplace : t.isDirectoryAt place = true := isDirectoryAt_iff.mpr (locate_of_find h).2
  have hfollow : t.follow place [n] =
      if mostNameBytes < (Text.str n).utf8ByteSize then .error .nameTooLong
      else if (t.node? (place ++ [n])).isSome then .ok (place ++ [n]) else .error .missing := by
    simp [follow, hplace, hn]
  rw [find, locate_child h, hfollow, childProblem?]
  split
  · rfl
  · split
    · rfl
    · split
      · rfl
      · cases hnode : t.node? (place ++ [n]) with
        | none => rfl
        | some x => simp [bind, Except.bind, hnode, pure, Except.pure]

/-- Above a directory there is another one. -/
theorem find_dotDot (htree : t.IsTree) (h : t.find directory = .ok (place, .directory)) :
    t.find (directory.child Path.dotDot) =
      match childProblem? directory Path.dotDot with
      | some e => .error e
      | none => .ok (place.dropLast, .directory) := by
  have hplace : t.isDirectoryAt place = true := isDirectoryAt_iff.mpr (locate_of_find h).2
  have hup : t.node? place.dropLast = some .directory := isDirectoryAt_iff.mp (htree place hplace)
  have hfollow : t.follow place [Path.dotDot] = .ok place.dropLast := by simp [follow, hplace]
  have hshort : ¬ mostNameBytes < (Text.str Path.dotDot).utf8ByteSize := by decide
  rw [find, locate_child h, hfollow, childProblem?, if_neg hshort]
  split
  · rfl
  · split
    · rfl
    · simp [bind, Except.bind, hup, pure, Except.pure]

/-- What a name in a directory leads to is right inside the directory if it is a file. -/
theorem place_of_find_child (htree : t.IsTree) (h : t.find directory = .ok (place, .directory))
    {other : Place} {data : ByteArray}
    (hfile : t.find (directory.child n) = .ok (other, .file data)) : other = place ++ [n] := by
  by_cases hn : n = Path.dotDot
  · rw [hn, find_dotDot htree h] at hfile
    split at hfile <;> cases hfile
  · rw [find_child h hn] at hfile
    split at hfile
    · cases hfile
    · split at hfile
      · cases hfile
        rfl
      · cases hfile

/-- A name in a directory is looked up without an answer just if it is too long. -/
theorem probe_child_eq_error_iff (htree : t.IsTree)
    (h : t.find directory = .ok (place, .directory)) {e : FileError} :
    t.probe (directory.child n) = .error e ↔
      e = .nameTooLong ∧ childProblem? directory n = some .nameTooLong := by
  have hproblem : childProblem? directory n = none ∨
      childProblem? directory n = some .unnameable ∨
      childProblem? directory n = some .nameTooLong := by
    unfold childProblem?
    split
    · simp
    · split
      · simp
      · split <;> simp
  by_cases hn : n = Path.dotDot
  · subst hn
    rw [probe, find_dotDot htree h]
    rcases hproblem with heq | heq | heq <;> simp [heq, eq_comm]
  · rw [probe, find_child h hn]
    rcases hproblem with heq | heq | heq
    · cases hnode : t.node? (place ++ [n]) <;> simp [heq]
    · simp [heq]
    · simp [heq, eq_comm]

theorem list_of_find (h : t.find directory = .ok (place, .directory)) :
    t.list directory = .ok (t.entriesAt place) := by
  simp [list, bind, Except.bind, h, pure, Except.pure]

theorem exists_of_list {entries : List (Text × Node)} (h : t.list directory = .ok entries) :
    ∃ place, t.find directory = .ok (place, .directory) ∧ entries = t.entriesAt place := by
  unfold list at h
  cases hfind : t.find directory with
  | error e => rw [hfind] at h; cases h
  | ok found =>
    rw [hfind] at h
    obtain ⟨place, data | _⟩ := found
    · cases h
    · exact ⟨place, rfl, (Except.ok.inj h).symm⟩

theorem nameIn?_eq_some_iff {other : Place} :
    nameIn? place other = some n ↔ other = place ++ [n] := by
  unfold nameIn?
  constructor
  · intro h
    split at h
    · next m hrest =>
      cases h
      exact (List.isPrefixOf?_eq_some_iff_append_eq.mp hrest).symm
    · cases h
  · rintro rfl
    rw [show place.isPrefixOf? (place ++ [n]) = some [n] from
      List.isPrefixOf?_eq_some_iff_append_eq.mpr rfl]

/-- Every entry that can be looked up in a directory is listed. -/
theorem mem_entriesAt {x : Node} (h : t.node? (place ++ [n]) = some x) :
    (n, x) ∈ t.entriesAt place := by
  rw [node?, if_neg (by simp), List.lookup_eq_some_iff] at h
  obtain ⟨before, after, hsplit, -⟩ := h
  refine List.mem_mergeSort.mpr (List.mem_filterMap.mpr ⟨(place ++ [n], x), by simp [hsplit], ?_⟩)
  have hname : nameIn? place (place ++ [n]) = some n := nameIn?_eq_some_iff.mpr rfl
  simp [hname]

/-- A directory lists each name once if the tree lists each place once. -/
theorem nodup_names_entriesAt (h : (t.nodes.map Prod.fst).Nodup) (place : Place) :
    ((t.entriesAt place).map Prod.fst).Nodup := by
  have hperm : ((t.entriesAt place).map Prod.fst).Perm
      ((t.nodes.map Prod.fst).filterMap (nameIn? place)) := by
    rw [List.filterMap_map]
    refine ((List.mergeSort_perm _ _).map _).trans (List.Perm.of_eq ?_)
    rw [List.map_filterMap]
    refine List.filterMap_congr fun e _ => ?_
    rw [Option.map_map]
    exact Option.map_id'
  refine hperm.nodup_iff.mpr (List.Nodup.filterMap (fun a b n ha hb => ?_) h)
  rw [nameIn?_eq_some_iff.mp ha, nameIn?_eq_some_iff.mp hb]

/-! ## Removal of a file -/

/-- A file with the name can be removed from the directory. -/
def Removable (t : Files) (directory : Path) (n : Text) : Prop :=
  ∃ u, t.unlink (directory.child n) = .ok u

theorem unlink_of_find {p : Path} {data : ByteArray} (h : t.find p = .ok (place, .file data))
    (hpinned : place ∉ t.pinned) : t.unlink p = .ok (t.remove place) := by
  simp [unlink, bind, Except.bind, h, hpinned, pure, Except.pure]

/-- A file of the directory can be removed if it can be looked up and is not pinned. -/
theorem removable_iff (htree : t.IsTree) (h : t.find directory = .ok (place, .directory)) :
    t.Removable directory n ↔ n ≠ Path.dotDot ∧ childProblem? directory n = none ∧
      place ++ [n] ∉ t.pinned ∧ ∃ data, t.node? (place ++ [n]) = some (.file data) := by
  constructor
  · rintro ⟨u, hu⟩
    obtain ⟨place', data, hfind, hpinned, -⟩ := find_of_unlink hu
    have hn : n ≠ Path.dotDot := by
      rintro rfl
      rw [find_dotDot htree h] at hfind
      split at hfind <;> cases hfind
    rw [find_child h hn] at hfind
    split at hfind
    · cases hfind
    · next hproblem =>
      split at hfind
      · next x hnode =>
        cases hfind
        exact ⟨hn, hproblem, hpinned, data, hnode⟩
      · cases hfind
  · rintro ⟨hn, hproblem, hpinned, data, hnode⟩
    have hfind : t.find (directory.child n) = .ok (place ++ [n], .file data) := by
      rw [find_child h hn, hproblem, hnode]
    exact ⟨_, unlink_of_find hfind hpinned⟩

theorem find_of_removable (htree : t.IsTree) (h : t.find directory = .ok (place, .directory))
    (hn : t.Removable directory n) :
    ∃ data, t.find (directory.child n) = .ok (place ++ [n], .file data) := by
  obtain ⟨hdot, hproblem, -, data, hnode⟩ := (removable_iff htree h).mp hn
  exact ⟨data, by rw [find_child h hdot, hproblem, hnode]⟩

theorem probe_of_removable (htree : t.IsTree) (h : t.find directory = .ok (place, .directory))
    (hn : t.Removable directory n) : t.probe (directory.child n) = .ok true := by
  obtain ⟨data, hfind⟩ := find_of_removable htree h hn
  rw [probe, hfind]

/-- The removal of a file takes its entry away. -/
theorem unlink_child (htree : t.IsTree) (h : t.find directory = .ok (place, .directory))
    (hn : t.Removable directory n) :
    t.unlink (directory.child n) = .ok (t.remove (place ++ [n])) := by
  obtain ⟨data, hfind⟩ := find_of_removable htree h hn
  exact unlink_of_find hfind ((removable_iff htree h).mp hn).2.2.1

/-! ## Several files -/

/-- The tree without the entries with some names right inside the directory at a place. -/
def without (t : Files) (place : Place) (names : List Text) : Files :=
  { t with nodes := t.nodes.filter fun e => names.all fun n => e.1 ≠ place ++ [n] }

@[simp] theorem without_nil (t : Files) (place : Place) : t.without place [] = t := by
  rw [without, List.filter_eq_self.mpr fun _ _ => List.all_nil]

theorem remove_without (t : Files) (place : Place) (names : List Text) (n : Text) :
    (t.without place names).remove (place ++ [n]) = t.without place (names ++ [n]) := by
  simp [without, remove, List.filter_filter, Bool.and_comm]

theorem node?_without_of_mem {names : List Text} (hn : n ∈ names) :
    (t.without place names).node? (place ++ [n]) = none := by
  rw [node?, if_neg (by simp), List.lookup_eq_none_iff]
  intro e he
  have hkept := List.all_eq_true.mp (List.mem_filter.mp he).2 n hn
  exact bne_iff_ne.mpr (Ne.symm (by simpa using hkept))

theorem node?_without_of_forall_ne {names : List Text} {other : Place}
    (hother : ∀ n ∈ names, other ≠ place ++ [n]) :
    (t.without place names).node? other = t.node? other := by
  induction names using List.reverseRecOn with
  | nil => rw [without_nil]
  | append_singleton names n ih =>
    obtain ⟨hnames, hn⟩ := List.forall_mem_append.mp hother
    rw [← remove_without, node?_remove_of_ne _ (hn n List.mem_cons_self), ih hnames]

/-- If only files are gone, all directories are still there. -/
theorem isDirectoryAt_without {names : List Text}
    (hnames : ∀ n ∈ names, t.isDirectoryAt (place ++ [n]) = false) (other : Place) :
    (t.without place names).isDirectoryAt other = t.isDirectoryAt other := by
  by_cases hother : ∃ n ∈ names, other = place ++ [n]
  · obtain ⟨n, hn, rfl⟩ := hother
    rw [hnames n hn, isDirectoryAt, node?_without_of_mem hn]
    rfl
  · rw [isDirectoryAt, node?_without_of_forall_ne fun n hn heq => hother ⟨n, hn, heq⟩,
      isDirectoryAt]

section Without

variable {names : List Text}

theorem isDirectoryAt_of_removable (htree : t.IsTree)
    (h : t.find directory = .ok (place, .directory)) (hn : t.Removable directory n) :
    t.isDirectoryAt (place ++ [n]) = false := by
  obtain ⟨-, -, -, data, hnode⟩ := (removable_iff htree h).mp hn
  rw [isDirectoryAt, hnode]
  rfl

variable (htree : t.IsTree) (h : t.find directory = .ok (place, .directory))
  (hnames : ∀ n ∈ names, t.Removable directory n)

include htree h hnames

theorem isTree_without : (t.without place names).IsTree := by
  have hdirs := isDirectoryAt_without fun n hn => isDirectoryAt_of_removable htree h (hnames n hn)
  intro other hother
  rw [hdirs] at hother ⊢
  exact htree other hother

theorem find_directory_without :
    (t.without place names).find directory = .ok (place, .directory) := by
  have hdirs := isDirectoryAt_without fun n hn => isDirectoryAt_of_removable htree h (hnames n hn)
  have hcwd : (t.without place names).cwd = t.cwd := rfl
  exact find_directory_congr hcwd hdirs h

/-- Files that went before make no difference to the removal of another one. -/
theorem removable_without :
    (t.without place names).Removable directory n ↔ t.Removable directory n ∧ n ∉ names := by
  rw [removable_iff (isTree_without htree h hnames) (find_directory_without htree h hnames),
    removable_iff htree h]
  have hpinned : (t.without place names).pinned = t.pinned := rfl
  by_cases hn : n ∈ names
  · simp [node?_without_of_mem hn, hn]
  · have hne : ∀ m ∈ names, place ++ [n] ≠ place ++ [m] := by
      intro m hm heq
      obtain rfl : n = m := by simpa using heq
      exact hn hm
    simp [node?_without_of_forall_ne hne, hn, hpinned]

/-- Every other entry of the directory is found as before. -/
theorem find_child_without (hn : n ∉ names) :
    (t.without place names).find (directory.child n) = t.find (directory.child n) := by
  have htree' := isTree_without htree h hnames
  have h' := find_directory_without htree h hnames
  by_cases hdot : n = Path.dotDot
  · rw [hdot, find_dotDot htree' h', find_dotDot htree h]
  · have hnode : (t.without place names).node? (place ++ [n]) = t.node? (place ++ [n]) := by
      refine node?_without_of_forall_ne fun m hm heq => ?_
      obtain rfl : n = m := by simpa using heq
      exact hn hm
    rw [find_child h' hdot, find_child h hdot, hnode]

end Without

/-! ## Trees with fewer files -/

/-- A tree from which files are gone at some of the places `gone`, and nothing else. -/
structure Thinned (t : Files) (gone : Place → Prop) (u : Files) : Prop where
  cwd : u.cwd = t.cwd
  /-- Every entry is as it was, or it was a file and is gone. -/
  node? : ∀ place, u.node? place = t.node? place ∨
    u.node? place = none ∧ (∃ data, t.node? place = some (.file data)) ∧ gone place

namespace Thinned

variable {gone : Place → Prop} {u v : Files} {p : Path} {x : Node}

theorem refl (t : Files) (gone : Place → Prop) : t.Thinned gone t := ⟨rfl, fun _ => .inl rfl⟩

/-- What is there was there. -/
theorem node?_eq_some (h : t.Thinned gone u) (hx : u.node? place = some x) :
    t.node? place = some x := by
  rcases h.node? place with heq | ⟨hnone, -⟩
  · exact heq.symm.trans hx
  · rw [hnone] at hx
    cases hx

theorem isDirectoryAt (h : t.Thinned gone u) (place : Place) :
    u.isDirectoryAt place = t.isDirectoryAt place := by
  rcases h.node? place with heq | ⟨hnone, ⟨data, hfile⟩, -⟩
  · rw [Files.isDirectoryAt, heq, Files.isDirectoryAt]
  · rw [Files.isDirectoryAt, hnone, Files.isDirectoryAt, hfile]
    rfl

/-- Names lead where they led when there were more files, if they lead anywhere. -/
theorem follow (h : t.Thinned gone u) {start : Place} {names : List Text}
    (hu : u.follow start names = .ok place) : t.follow start names = .ok place := by
  induction names generalizing start with
  | nil => exact hu
  | cons n names ih =>
    rw [Files.follow, h.isDirectoryAt] at hu
    rw [Files.follow]
    split at hu
    · cases hu
    · next hstart =>
      rw [if_neg hstart]
      split at hu
      · next hn => rw [if_pos hn, ih hu]
      · next hn =>
        rw [if_neg hn]
        split at hu
        · cases hu
        · next hbytes =>
          rw [if_neg hbytes]
          split at hu
          · next hthere =>
            obtain ⟨x, hx⟩ := Option.isSome_iff_exists.mp hthere
            rw [if_pos (by simp [h.node?_eq_some hx]), ih hu]
          · cases hu

/-- A path leads where it led when there were more files, if it leads anywhere. -/
theorem find (h : t.Thinned gone u) (hu : u.find p = .ok (place, x)) :
    t.find p = .ok (place, x) := by
  obtain ⟨hlocate, hnode⟩ := locate_of_find hu
  obtain ⟨hname, hbytes, hfollow⟩ := locate_eq_follow hlocate
  refine find_of_locate ?_ (h.node?_eq_some hnode)
  rw [origin, h.cwd] at hfollow
  rw [locate, hname, if_neg (by simp), if_neg (Nat.not_lt.mpr hbytes)]
  exact h.follow hfollow

/-- One more file goes. Where it is could be told when there were more files. -/
theorem unlink (h : t.Thinned gone u) (hv : u.unlink p = .ok v)
    (hgone : ∀ place data, t.find p = .ok (place, .file data) → gone place) :
    t.Thinned gone v := by
  obtain ⟨place, data, hfind, -, rfl⟩ := find_of_unlink hv
  have hfound := h.find hfind
  have hnode := (locate_of_find hfound).2
  refine ⟨h.cwd, fun other => ?_⟩
  by_cases hother : other = place
  · subst hother
    have hroot : other ≠ [] := by
      rintro rfl
      cases hnode
    exact .inr ⟨node?_remove_self u hroot, ⟨data, hnode⟩, hgone other data hfound⟩
  · rw [node?_remove_of_ne u hother]
    exact h.node? other

end Thinned

end Typeset.Files
