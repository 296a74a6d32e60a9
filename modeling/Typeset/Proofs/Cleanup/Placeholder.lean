import Typeset.Proofs.Cleanup.Beside
import Typeset.Proofs.Cleanup.Deleted
import Typeset.Proofs.Text.Mark

/-!
# The name of the document in a pattern

A pattern may hold a placeholder for the name of the document. The name is put into the pattern
before the pattern is read, so a star or a question mark in the name is read as a wildcard, as if
it stood in the pattern. If there is none, the pattern describes the name that it makes and no
other, whatever else the name of the document holds, and a sweep takes no file with another name
away.

## Main definitions

* `Wildcard.IsLiteral`: a text without wildcards
* `Cleanup.Sweep.TakesOnly`: a sweep that has taken only files with certain names away

## Main results

* `Wildcard.pieces_append_placeholder`: the pieces of a pattern with a placeholder
* `Wildcard.accepts_map`: wildcards describe other characters than themselves too
* `Cleanup.placeholder_literal_iff`: when the name of the document stands for itself
* `Cleanup.taken_for_wildcard`: a document whose pattern describes files of other ones
-/

namespace Typeset

/-! ## Literal texts -/

namespace Wildcard

/-- The text holds no wildcard, so that as a pattern it stands for itself. -/
def IsLiteral (t : Text) : Prop := '*' ∉ t ∧ '?' ∉ t

instance (t : Text) : Decidable (IsLiteral t) := inferInstanceAs (Decidable (_ ∧ _))

variable {t u left right base name : Text} {ps : List Piece}

theorem isLiteral_append : IsLiteral (t ++ u) ↔ IsLiteral t ∧ IsLiteral u := by
  simp only [IsLiteral, List.mem_append, not_or]
  exact and_and_and_comm

theorem map_ofChar_of_isLiteral (h : IsLiteral t) : t.map Piece.ofChar = t.map .literal := by
  apply List.map_congr_left
  intro c hc
  have hstar : c ≠ '*' := fun heq => h.1 (heq ▸ hc)
  have hmark : c ≠ '?' := fun heq => h.2 (heq ▸ hc)
  rw [Piece.ofChar, if_neg hstar, if_neg hmark]

/-- A run may be empty. -/
theorem accepts_run (h : accepts ps name = true) : accepts (.run :: ps) name = true := by
  cases name with
  | nil => rwa [accepts]
  | cons c name => rw [accepts, h, Bool.true_or]

/-- A literal piece stands for a character of the name. A run is empty there, or takes the
character. -/
theorem mem_of_accepts {c : Char} (hc : .literal c ∈ ps) (h : accepts ps name = true) :
    c ∈ name := by
  fun_induction accepts ps name with
  | case1 => cases hc
  | case2 ps ih => exact ih (by simpa using hc) h
  | case3 ps d name ih ih' =>
    rw [Bool.or_eq_true, Bool.and_eq_true] at h
    rcases h with h | ⟨-, h⟩
    · exact ih (by simpa using hc) h
    · exact List.mem_cons_of_mem _ (ih' hc h)
  | case4 => cases h
  | case5 ps d name ih =>
    rw [Bool.and_eq_true] at h
    exact List.mem_cons_of_mem _ (ih (by simpa using hc) h.2)
  | case6 => cases h
  | case7 a ps d name ih =>
    rw [Bool.and_eq_true, beq_iff_eq] at h
    rcases List.mem_cons.mp hc with heq | hc
    · cases heq
      exact h.1 ▸ List.mem_cons_self
    · exact List.mem_cons_of_mem _ (ih hc h.2)

/-- A pattern describes each text that it turns into if wildcards are replaced by characters other
than line feeds. A run takes the one character in its place, and goes on as an empty one. -/
theorem accepts_map {f : Char → Char}
    (hf : ∀ c ∈ t, f c ≠ '\n' ∧ (f c = c ∨ c = '*' ∨ c = '?')) :
    accepts (t.map Piece.ofChar) (t.map f) = true := by
  induction t with
  | nil => rw [List.map_nil, List.map_nil, accepts, List.isEmpty_nil]
  | cons c t ih =>
    obtain ⟨⟨hfeed, hc⟩, ht⟩ := List.forall_mem_cons.mp hf
    have hrest := ih ht
    rw [List.map_cons, List.map_cons, Piece.ofChar]
    split
    · rw [accepts, accepts_run hrest]
      simp [hfeed]
    · next hstar =>
      split
      · simp [accepts, hfeed, hrest]
      · next hmark =>
        have heq : f c = c := by simpa [hstar, hmark] using hc
        simp [accepts, heq, hrest]

/-! ## The placeholder -/

/-- The placeholder is a bracket and characters that are no opening bracket. -/
theorem placeholder_eq : placeholder = '\x7b' :: "basename\x7d".toList := rfl

variable (hleft : ¬ placeholder <:+: left)
include hleft

/-- A pattern with a placeholder is held against the files of the directory. -/
theorem isNamePattern_append_placeholder (right : Text) :
    Cleanup.isNamePattern (left ++ placeholder ++ right) = true := by
  rw [placeholder_eq] at hleft
  have hfound := Text.breakOn?_append_mark (by decide) hleft right
  rw [List.append_assoc, Cleanup.isNamePattern, Text.occursIn, placeholder_eq, hfound]
  simp

/-- The name of the document takes the place of the placeholder, and then the pattern is read. -/
theorem pieces_append_placeholder (hright : ¬ placeholder <:+: right) (base : Text) :
    pieces (left ++ placeholder ++ right) base = (left ++ base ++ right).map Piece.ofChar := by
  rw [placeholder_eq] at hleft hright
  rw [pieces, List.append_assoc, placeholder_eq,
    Text.replace_append_mark (by decide) hleft hright base]

/-- If nothing in the pattern is a wildcard, it describes the name that it makes, with or without a
line feed behind it. -/
theorem matchesName_of_isLiteral (hright : ¬ placeholder <:+: right)
    (h : IsLiteral (left ++ base ++ right)) :
    matchesName (left ++ placeholder ++ right) base name = true ↔
      name = left ++ base ++ right ∨ name = left ++ base ++ right ++ ['\n'] := by
  rw [matchesName, pieces_append_placeholder hleft hright, map_ofChar_of_isLiteral h]
  simp only [Bool.or_eq_true, Bool.and_eq_true, beq_iff_eq, accepts_literals]
  apply or_congr_right
  constructor
  · rintro ⟨hlast, hfront⟩
    obtain ⟨front, rfl⟩ := List.getLast?_eq_some_iff.mp hlast
    rw [List.dropLast_concat] at hfront
    rw [hfront]
  · rintro rfl
    exact ⟨List.getLast?_concat, List.dropLast_concat⟩

/-- A line feed in the pattern describes nothing but a line feed. -/
theorem matchesName_eq_false (hright : ¬ placeholder <:+: right)
    (hfeed : '\n' ∈ left ++ base ++ right) (hname : '\n' ∉ name) :
    matchesName (left ++ placeholder ++ right) base name = false := by
  rw [matchesName_of_noLineFeed hname, pieces_append_placeholder hleft hright,
    ← Bool.not_eq_true]
  intro h
  exact hname (mem_of_accepts (List.mem_map_of_mem (f := Piece.ofChar) hfeed) h)

/-- A wildcard in the name of the document describes the names with any character in its place. -/
theorem exists_ne_of_not_isLiteral (hright : ¬ placeholder <:+: right) (hbase : ¬ IsLiteral base)
    (hfeed : '\n' ∉ left ++ base ++ right) :
    ∃ name, '\n' ∉ name ∧ name ≠ left ++ base ++ right ∧
      matchesName (left ++ placeholder ++ right) base name = true := by
  obtain ⟨w, hmem, hw⟩ : ∃ w ∈ base, w = '*' ∨ w = '?' := by
    rw [IsLiteral, not_and_or, not_not, not_not] at hbase
    rcases hbase with h | h
    · exact ⟨_, h, .inl rfl⟩
    · exact ⟨_, h, .inr rfl⟩
  let f : Char → Char := fun c => if c = w then 'a' else c
  have hf : ∀ c ∈ left ++ base ++ right, f c ≠ '\n' ∧ (f c = c ∨ c = '*' ∨ c = '?') := by
    intro c hc
    by_cases hcw : c = w
    · simp only [f, if_pos hcw]
      exact ⟨by decide, .inr (hcw ▸ hw)⟩
    · simp only [f, if_neg hcw]
      exact ⟨fun heq => hfeed (heq ▸ hc), .inl trivial⟩
  have hnofeed : '\n' ∉ (left ++ base ++ right).map f := by
    intro h
    obtain ⟨c, hc, heq⟩ := List.mem_map.mp h
    exact (hf c hc).1 heq
  have hne : (left ++ base ++ right).map f ≠ left ++ base ++ right := by
    intro heq
    have hw' : w ∈ (left ++ base ++ right).map f := by
      rw [heq]
      simp [hmem]
    obtain ⟨c, -, hc⟩ := List.mem_map.mp hw'
    by_cases hcw : c = w
    · simp only [f, if_pos hcw] at hc
      rcases hw with rfl | rfl <;> exact absurd hc (by decide)
    · simp only [f, if_neg hcw] at hc
      exact hcw hc
  refine ⟨_, hnofeed, hne, ?_⟩
  rw [matchesName_of_noLineFeed hnofeed, pieces_append_placeholder hleft hright]
  exact accepts_map hf

end Wildcard

/-! ## Sweeps -/

namespace Cleanup

namespace Sweep

/-- So far only files of a directory were removed, and only such whose names have `P`. -/
structure TakesOnly (files : Files) (directory : Path) (P : Text → Prop) (s : Sweep) : Prop where
  deleted : ∀ n ∈ s.outcome.deleted, P n
  thinned : files.Thinned (fun place => ∃ n, P n ∧ files.locate (directory.child n) = .ok place)
    s.files

variable {files : Files} {directory : Path} {P : Text → Prop} {s : Sweep} {n : Text}

theorem TakesOnly.unlink (hs : TakesOnly files directory P s) (hn : P n) :
    TakesOnly files directory P (s.unlink (directory.child n)) where
  deleted := by
    unfold Sweep.unlink
    split
    · rw [Path.name_child]
      intro m hm
      rcases List.mem_append.mp hm with hm | hm
      · exact hs.deleted m hm
      · rwa [List.mem_singleton.mp hm]
    · exact hs.deleted
  thinned := thinned_unlink hs.thinned fun _ _ hfind => ⟨n, hn, (Files.locate_of_find hfind).1⟩

/-- A pattern is held against one of the names. -/
theorem TakesOnly.tryName {base pattern : Text} (hs : TakesOnly files directory P s)
    (hP : Wildcard.matchesName pattern base n = true → P n) :
    TakesOnly files directory P (s.tryName directory base pattern n) := by
  unfold Sweep.tryName
  split
  · exact hs
  · split
    · next hmatch => exact hs.unlink (hP hmatch)
    · exact hs

end Sweep

/-- A pattern with wildcards or with the name of the document takes away what it describes. -/
theorem takesOnly_sweep {files : Files} {tex : Path} {pattern : Text} {s : Sweep}
    (hpattern : isNamePattern pattern = true) (hs : sweep files tex [pattern] = .ok s) :
    s.TakesOnly files tex.parent fun n => Wildcard.matchesName pattern tex.stem n = true := by
  rw [sweep, if_neg (by simp)] at hs
  split at hs
  · cases hs
  · next entries _ =>
    cases hs
    rw [List.foldl_cons, List.foldl_nil, Sweep.tryPattern, if_neg (by simp), if_pos hpattern]
    refine List.foldlRecOn (motive := fun s : Sweep => s.TakesOnly files tex.parent fun n =>
      Wildcard.matchesName pattern tex.stem n = true) _ _ ?_ ?_
    · exact ⟨by simp, .refl files _⟩
    · exact fun s hs n _ => hs.tryName id

/-- **The name of a document stands for itself exactly if it holds no wildcard.** Let a pattern have
one placeholder and no wildcards of its own. It describes, of the names without a line feed, the one
that it makes with the name of the document and no other, exactly if the name of the document holds
no wildcard. (If what it makes holds a line feed, it describes none of these names at all.) So a
sweep beside a document without wildcards in its name removes no file of another name, except that a
line feed may stand behind it. -/
theorem placeholder_literal_iff {left right : Text} (hleft : Wildcard.IsLiteral left)
    (hright : Wildcard.IsLiteral right)
    (honce : ¬ Wildcard.placeholder <:+: left ∧ ¬ Wildcard.placeholder <:+: right) (base : Text) :
    let pattern := left ++ Wildcard.placeholder ++ right
    let whole := left ++ base ++ right
    ((∀ name, '\n' ∉ name → (Wildcard.matchesName pattern base name = true ↔ name = whole)) ↔
        Wildcard.IsLiteral base ∨ '\n' ∈ whole) ∧
      (Wildcard.IsLiteral base → ∀ files tex s, tex.stem = base →
        sweep files tex [pattern] = .ok s →
          (∀ n ∈ s.outcome.deleted, n = whole ∨ n = whole ++ ['\n']) ∧
            ∀ other, s.files.node? other = files.node? other ∨
              ∃ n, (n = whole ∨ n = whole ++ ['\n']) ∧
                files.locate (tex.parent.child n) = .ok other) := by
  intro pattern whole
  have hwhole : Wildcard.IsLiteral whole ↔ Wildcard.IsLiteral base := by
    simp only [whole, Wildcard.isLiteral_append, hleft, hright, true_and, and_true]
  have hliteral : Wildcard.IsLiteral base → ∀ name,
      Wildcard.matchesName pattern base name = true ↔ name = whole ∨ name = whole ++ ['\n'] :=
    fun h name => Wildcard.matchesName_of_isLiteral honce.1 honce.2 (hwhole.mpr h)
  refine ⟨⟨fun h => ?_, ?_⟩, ?_⟩
  · by_contra hnot
    rw [not_or] at hnot
    obtain ⟨name, hfeed, hne, hmatch⟩ :=
      Wildcard.exists_ne_of_not_isLiteral honce.1 honce.2 hnot.1 hnot.2
    exact hne ((h name hfeed).mp hmatch)
  · rintro (hbase | hfeed) name hname
    · rw [hliteral hbase, or_iff_left]
      rintro rfl
      simp at hname
    · rw [Wildcard.matchesName_eq_false honce.1 honce.2 hfeed hname]
      simp only [Bool.false_eq_true, false_iff]
      rintro rfl
      exact hname hfeed
  · rintro hbase files tex s rfl hs
    have htakes := takesOnly_sweep
      (Wildcard.isNamePattern_append_placeholder honce.1 right) hs
    refine ⟨fun n hn => (hliteral hbase n).mp (htakes.deleted n hn), fun other => ?_⟩
    rcases htakes.thinned.node? other with heq | ⟨-, -, n, hn, hlocate⟩
    · exact .inl heq
    · exact .inr ⟨n, (hliteral hbase n).mp hn, hlocate⟩

/-- Brackets, dots and backslashes in the name of a document stand for themselves. -/
theorem placeholder_literal_in_brackets :
    let right := ".log".toList
    let base := "notes [v1.2] \\d".toList
    let files : Files :=
      { nodes := [(["notes [v1.2] \\d.tex".toList], .file .empty),
          (["notes [v1.2] \\d.log".toList], .file .empty),
          (["notes v 7.log".toList], .file .empty)] }
    let tex := Path.ofString "notes [v1.2] \\d.tex"
    (Wildcard.IsLiteral [] ∧ Wildcard.IsLiteral right ∧
        ¬ Wildcard.placeholder <:+: [] ∧ ¬ Wildcard.placeholder <:+: right) ∧
      Wildcard.IsLiteral base ∧ tex.stem = base ∧
      (∀ name, '\n' ∉ name →
        (Wildcard.matchesName (Wildcard.placeholder ++ right) base name = true ↔
          name = "notes [v1.2] \\d.log".toList)) ∧
      ∃ s, sweep files tex [Wildcard.placeholder ++ right] = .ok s ∧
        s.files.node? ["notes v 7.log".toList] = some (.file .empty) := by
  intro right base files tex
  have hleft : Wildcard.IsLiteral [] ∧ ¬ Wildcard.placeholder <:+: [] := by decide
  have hright : Wildcard.IsLiteral right ∧ ¬ Wildcard.placeholder <:+: right := by decide
  have hbase : Wildcard.IsLiteral base := by decide
  have hstem : tex.stem = base := by decide +kernel
  obtain ⟨hiff, hsweep⟩ :=
    placeholder_literal_iff hleft.1 hright.1 ⟨hleft.2, hright.2⟩ base
  have hlist : (sweep files tex [Wildcard.placeholder ++ right]).isOk = true := by decide +kernel
  refine ⟨⟨hleft.1, hright.1, hleft.2, hright.2⟩, hbase, hstem, hiff.mpr (.inl hbase), ?_⟩
  cases hs : sweep files tex [Wildcard.placeholder ++ right] with
  | error e =>
    rw [hs] at hlist
    cases hlist
  | ok s =>
    obtain ⟨-, hkept⟩ := hsweep hbase files tex s hstem hs
    refine ⟨s, rfl, ?_⟩
    rcases hkept ["notes v 7.log".toList] with heq | ⟨n, hn, hlocate⟩
    · rw [heq]
      rfl
    · rcases hn with rfl | rfl <;> exact absurd hlocate (by decide +kernel)

/-- A star in the name of a document is read as a wildcard, so the pattern for its log describes the
log of another document, and a sweep takes both away. -/
theorem taken_for_wildcard :
    let pattern := Wildcard.placeholder ++ ".log".toList
    let base := "a*".toList
    let files : Files :=
      { nodes := [(["a*.tex".toList], .file .empty), (["a*.log".toList], .file .empty),
          (["ab.tex".toList], .file .empty), (["ab.log".toList], .file .empty)] }
    let tex := Path.ofString "a*.tex"
    tex.stem = base ∧ '\n' ∉ "ab.log".toList ∧ "ab.log".toList ≠ base ++ ".log".toList ∧
      Wildcard.matchesName pattern base "ab.log".toList = true ∧
      ∃ s, sweep files tex [pattern] = .ok s ∧ "ab.log".toList ∈ s.outcome.deleted ∧
        s.files.node? ["ab.log".toList] = none := by
  intro pattern base files tex
  have htree : files.IsTree := Files.isTree_of_forall_nodes (by decide +kernel)
  have hdir : files.find tex.parent = .ok ([], .directory) := rfl
  have honce : ¬ Wildcard.placeholder <:+: [] ∧ ¬ Wildcard.placeholder <:+: ".log".toList := by
    decide
  have hmatch : Wildcard.matchesName pattern base "ab.log".toList = true := by
    have hpieces : Wildcard.pieces pattern base = ("a*.log".toList).map Wildcard.Piece.ofChar :=
      Wildcard.pieces_append_placeholder honce.1 honce.2 base
    rw [Wildcard.matchesName_of_noLineFeed (by decide), hpieces]
    refine Wildcard.accepts_map (f := fun c => if c = '*' then 'b' else c) fun c hc => ?_
    by_cases hstar : c = '*'
    · simp only [if_pos hstar]
      exact ⟨by decide, .inr (.inl hstar)⟩
    · simp only [if_neg hstar]
      refine ⟨?_, .inl trivial⟩
      rintro rfl
      exact absurd hc (by decide)
  have hasks : asksFor tex.stem pattern "ab.log".toList = true := by
    have hname : isNamePattern pattern = true :=
      Wildcard.isNamePattern_append_placeholder honce.1 ".log".toList
    have hopen : protectedEnds.any (Text.endsWith · "ab.log".toList) = false := by decide
    rw [asksFor, if_pos hname, hopen, show tex.stem = base by decide, hmatch]
    rfl
  obtain ⟨place, s, hplace, hs, hswept, -⟩ := swept_sweep htree (Files.list_of_find hdir)
    (Path.isClean_ofText _) (by decide) (by decide) (by decide : ∀ p ∈ [pattern], '/' ∉ p)
  rw [hdir] at hplace
  cases hplace
  have hcarried : carriedOut tex [pattern] = [pattern] := by decide +kernel
  have hdeleted : "ab.log".toList ∈ s.outcome.deleted := by
    rw [hswept.deleted, hcarried]
    exact ⟨⟨_, rfl⟩, pattern, List.mem_singleton_self _, hasks⟩
  refine ⟨by decide, by decide, by decide, hmatch, s, hs, hdeleted, ?_⟩
  rw [hswept.tree]
  exact Files.node?_without_of_mem hdeleted

end Cleanup

end Typeset
