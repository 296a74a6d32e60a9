import Mathlib.Data.List.Basic
import Typeset.Command.Run

/-!
# The order of reports

Every report lists diagnostics in one order: errors first, then warnings, then notes, each by row,
and those of equal severity and row as they were found. There is only one such list. So it does not
matter how often diagnostics are sorted, nor whether some of them are left out before or afterwards;
and the error that the report on a failed build shows is the one that heads the report on its
diagnostics.

## Main definitions

* `Diagnostic.IsTied`: two diagnostics have the same severity and the same row
* `Diagnostic.Ordered`: the order of a report
* `Console.listing`: a report on diagnostics that are in order already

## Main results

* `Diagnostic.tiesOf_sort`: sorting leaves ties as they were
* `Diagnostic.eq_of_ordered`: lists in order are equal if they have the same ties
* `Diagnostic.sort_filter`: it does not matter when diagnostics are left out
* `Diagnostic.exists_first_error`: the first of the errors in the first row heads the sorted list
* `Console.listed_in_order`: what the reports list
-/

namespace Typeset

namespace Diagnostic

variable {a b d : Diagnostic} {ds xs ys : List Diagnostic}

/-! ## The order -/

theorem before_iff :
    before a b = true ↔
      a.severity.rank < b.severity.rank ∨
        a.severity.rank = b.severity.rank ∧ a.startRow ≤ b.startRow := by
  simp [before]

theorem before_trans (a b c : Diagnostic) (hab : before a b = true) (hbc : before b c = true) :
    before a c = true := by
  rw [before_iff] at hab hbc ⊢
  omega

theorem before_total (a b : Diagnostic) : (before a b || before b a) = true := by
  rw [Bool.or_eq_true, before_iff, before_iff]
  omega

theorem before_refl (a : Diagnostic) : before a a = true := by simpa using before_total a a

/-- Two diagnostics have the same severity and the same row. -/
def IsTied (a b : Diagnostic) : Prop := a.severity = b.severity ∧ a.startRow = b.startRow

instance (a b : Diagnostic) : Decidable (IsTied a b) := inferInstanceAs (Decidable (_ ∧ _))

theorem rank_inj {s t : Severity} : s.rank = t.rank ↔ s = t := by
  cases s <;> cases t <;> decide

theorem isTied_iff : IsTied a b ↔ before a b = true ∧ before b a = true := by
  rw [IsTied, ← rank_inj, before_iff, before_iff]
  omega

theorem IsTied.refl (a : Diagnostic) : IsTied a a := ⟨rfl, rfl⟩

theorem IsTied.symm (h : IsTied a b) : IsTied b a := ⟨h.1.symm, h.2.symm⟩

theorem IsTied.trans {c : Diagnostic} (hab : IsTied a b) (hbc : IsTied b c) : IsTied a c :=
  ⟨hab.1.trans hbc.1, hab.2.trans hbc.2⟩

/-- The diagnostics are in the order of a report. -/
def Ordered (ds : List Diagnostic) : Prop := ds.Pairwise fun a b => before a b = true

theorem ordered_sort (ds : List Diagnostic) : Ordered (sort ds) :=
  List.pairwise_mergeSort before_trans before_total ds

/-! ## Ties -/

/-- The diagnostics of a list that are tied with one, in their order. -/
def tiesOf (d : Diagnostic) (ds : List Diagnostic) : List Diagnostic := ds.filter (IsTied d ·)

theorem mem_tiesOf : a ∈ tiesOf d ds ↔ a ∈ ds ∧ IsTied d a := by simp [tiesOf]

theorem tiesOf_cons_of_tied (h : IsTied d a) (ds : List Diagnostic) :
    tiesOf d (a :: ds) = a :: tiesOf d ds := List.filter_cons_of_pos (by simpa using h)

theorem tiesOf_cons_of_not_tied (h : ¬ IsTied d a) (ds : List Diagnostic) :
    tiesOf d (a :: ds) = tiesOf d ds := List.filter_cons_of_neg (by simpa using h)

theorem tiesOf_filter (d : Diagnostic) (p : Diagnostic → Bool) (ds : List Diagnostic) :
    tiesOf d (ds.filter p) = (tiesOf d ds).filter p := by
  rw [tiesOf, tiesOf, List.filter_filter, List.filter_filter]
  exact List.filter_congr fun a _ => Bool.and_comm ..

theorem ordered_tiesOf (d : Diagnostic) (ds : List Diagnostic) : Ordered (tiesOf d ds) := by
  apply List.pairwise_iff_forall_sublist.mpr
  intro a b hab
  have ha : IsTied d a := (mem_tiesOf.mp (hab.subset (by simp))).2
  have hb : IsTied d b := (mem_tiesOf.mp (hab.subset (by simp))).2
  exact (isTied_iff.mp (ha.symm.trans hb)).1

/-- Sorting leaves ties as they were. They are in order among themselves, so they are a sublist of
the sorted list, which has as many. -/
theorem tiesOf_sort (d : Diagnostic) (ds : List Diagnostic) : tiesOf d (sort ds) = tiesOf d ds := by
  have hsorted : (tiesOf d ds).Sublist (sort ds) :=
    List.sublist_mergeSort before_trans before_total (ordered_tiesOf d ds) List.filter_sublist
  have hties : (tiesOf d ds).Sublist (tiesOf d (sort ds)) := by
    have hself : (tiesOf d ds).filter (IsTied d ·) = tiesOf d ds :=
      List.filter_eq_self.mpr fun a ha => decide_eq_true (mem_tiesOf.mp ha).2
    rw [← hself]
    exact hsorted.filter _
  exact (hties.eq_of_length ((sort_perm ds).filter _).length_eq.symm).symm

/-- Lists in order are equal if they have the same ties. Each head comes before the other one, so
the heads are tied. -/
theorem eq_of_ordered (hx : Ordered xs) (hy : Ordered ys)
    (h : ∀ d, tiesOf d xs = tiesOf d ys) : xs = ys := by
  have hmem : ∀ a, a ∈ xs ↔ a ∈ ys := by
    intro a
    have : a ∈ tiesOf a xs ↔ a ∈ tiesOf a ys := by rw [h a]
    simpa [mem_tiesOf, IsTied.refl] using this
  induction xs generalizing ys with
  | nil =>
    cases ys with
    | nil => rfl
    | cons b ys => simpa using hmem b
  | cons a xs ih =>
    cases ys with
    | nil => simpa using hmem a
    | cons b ys =>
      rw [Ordered, List.pairwise_cons] at hx hy
      have hab : before a b = true := by
        rcases List.mem_cons.mp ((hmem b).mpr List.mem_cons_self) with rfl | hb
        · exact before_refl b
        · exact hx.1 b hb
      have hba : before b a = true := by
        rcases List.mem_cons.mp ((hmem a).mp List.mem_cons_self) with rfl | ha
        · exact before_refl a
        · exact hy.1 a ha
      have htied : IsTied a b := isTied_iff.mpr ⟨hab, hba⟩
      have hhead := h a
      rw [tiesOf_cons_of_tied (.refl a), tiesOf_cons_of_tied htied] at hhead
      obtain rfl : a = b := (List.cons.inj hhead).1
      have htails : ∀ d, tiesOf d xs = tiesOf d ys := by
        intro d
        have hd := h d
        by_cases hda : IsTied d a
        · rw [tiesOf_cons_of_tied hda, tiesOf_cons_of_tied hda] at hd
          exact (List.cons.inj hd).2
        · rwa [tiesOf_cons_of_not_tied hda, tiesOf_cons_of_not_tied hda] at hd
      refine congrArg (a :: ·) (ih hx.2 hy.2 htails fun c => ?_)
      have : c ∈ tiesOf c xs ↔ c ∈ tiesOf c ys := by rw [htails c]
      simpa [mem_tiesOf, IsTied.refl] using this

/-- It does not matter whether diagnostics are left out before or after sorting. -/
theorem sort_filter (p : Diagnostic → Bool) (ds : List Diagnostic) :
    sort (ds.filter p) = (sort ds).filter p := by
  apply eq_of_ordered (ordered_sort _) ((ordered_sort ds).filter p)
  intro d
  rw [tiesOf_sort, tiesOf_filter, tiesOf_filter, tiesOf_sort]

theorem sort_of_ordered (h : Ordered ds) : sort ds = ds := List.mergeSort_of_pairwise h

/-! ## The first error -/

theorem isError_iff : isError d = true ↔ d.severity.rank ≤ Severity.error.rank := by
  rw [isError, decide_eq_true_eq, ← rank_inj]
  exact Nat.le_zero.symm

/-- If there is an error, the first of the errors in the first row heads the sorted list. It is the
first of its ties in the log. -/
theorem exists_first_error (h : hasErrors ds = true) :
    ∃ front d behind rest, ds = front ++ d :: behind ∧ isError d = true ∧
      (∀ e ∈ front, isError e = true → d.startRow < e.startRow) ∧
      (∀ e ∈ behind, isError e = true → d.startRow ≤ e.startRow) ∧ sort ds = d :: rest := by
  obtain ⟨e, he, herror⟩ := List.any_eq_true.mp h
  have hmem : ∀ a, a ∈ sort ds ↔ a ∈ ds := fun _ => (sort_perm ds).mem_iff
  cases hs : sort ds with
  | nil => exact absurd ((hmem e).mpr he) (by rw [hs]; exact List.not_mem_nil)
  | cons d rest =>
    have hfirst : ∀ a ∈ ds, before d a = true := by
      intro a ha
      rw [← hmem, hs] at ha
      have := ordered_sort ds
      rw [hs, Ordered, List.pairwise_cons] at this
      rcases List.mem_cons.mp ha with rfl | ha
      · exact before_refl a
      · exact this.1 a ha
    have hd : isError d = true := by
      have := before_iff.mp (hfirst e he)
      rw [isError_iff] at herror ⊢
      omega
    have hrow : ∀ a ∈ ds, isError a = true → d.startRow ≤ a.startRow := by
      intro a ha haerror
      have := before_iff.mp (hfirst a ha)
      rw [isError_iff] at hd haerror
      have hzero : Severity.error.rank = 0 := rfl
      omega
    have hfind : ds.find? (IsTied d ·) = some d := by
      have := tiesOf_sort d ds
      rw [hs, tiesOf_cons_of_tied (.refl d)] at this
      rw [← List.head?_filter]
      exact congrArg List.head? this.symm
    obtain ⟨-, front, behind, rfl, hfront⟩ := List.find?_eq_some_iff_append.mp hfind
    refine ⟨front, d, behind, rest, rfl, hd, fun a ha haerror => ?_, fun a ha => ?_, rfl⟩
    · have hle := hrow a (by simp [ha]) haerror
      have hne : ¬ IsTied d a := by simpa using hfront a ha
      have hseverity : d.severity = a.severity := by
        simp only [isError, decide_eq_true_eq] at hd haerror
        rw [hd, haerror]
      have : d.startRow ≠ a.startRow := fun hrow => hne ⟨hseverity, hrow⟩
      omega
    · exact hrow a (by simp [ha])

end Diagnostic

namespace Console

open Build (Outcome)
open Diagnostic (Ordered tiesOf hasErrors)

variable {d : Diagnostic} {ds rest : List Diagnostic}

/-! ## Reports -/

/-- The report on diagnostics that are in order already; an empty title is left out. -/
def listing (screen : Option Screen) (title : Text) (ds : List Diagnostic) : Shown :=
  match screen with
  | some s => .drawn .results ((diagnosticsTable title ds).lines s.columns ++ [tallyText ds])
  | none =>
    .written
      (echoAll ((if title.isEmpty then [] else [title]) ++ ds.map diagnosticLine ++ [tallyText ds]))

theorem diagnosticsReport_eq (screen : Option Screen) (title : Text) (ds : List Diagnostic) :
    diagnosticsReport screen title ds = listing screen title (Diagnostic.sort ds) := rfl

/-- A report does not depend on whether its diagnostics were sorted before. -/
theorem diagnosticsReport_sort (screen : Option Screen) (title : Text) (ds : List Diagnostic) :
    diagnosticsReport screen title (Diagnostic.sort ds) = diagnosticsReport screen title ds := by
  rw [diagnosticsReport_eq, diagnosticsReport_eq,
    Diagnostic.sort_of_ordered (Diagnostic.ordered_sort ds)]

/-- The primary error heads the sorted list if that begins with an error. -/
theorem primary?_eq_some (hd : d.isError = true) (h : Diagnostic.sort ds = d :: rest) :
    primary? ds = some d := by
  rw [primary?, Diagnostic.sort_filter, h, List.filter_cons_of_pos hd, List.head?_cons]

/-- The rows on a failed build begin with its primary error. -/
theorem failureRows_eq {o : Outcome} (h : primary? o.diagnostics = some d) (cwd log : Path) :
    failureRows cwd o log = (shownPath cwd log).map fun log =>
      [("Primary error".toList, locationText d ++ [':', ' '] ++ d.excerpt),
        ("Log file".toList, log),
        ("Next steps".toList, "Inspect the log or re-run with -v for details".toList)] := by
  rw [failureRows, complaintRows, h]
  rfl

/-- The diagnostics of a log that are shown: all of them, or those that are no notes. -/
def shownOf (noInfo : Bool) (ds : List Diagnostic) : List Diagnostic :=
  ds.filter fun d => !noInfo || d.severity ≠ .info

/-- A log that is read is listed in order, without its notes if these are not wanted. The report
sorts once more what has been sorted for it, which changes nothing. -/
theorem output_parse {s : Command.Surroundings} {log : Path} {text : Text}
    (htext : s.files.readText log = .ok text) (verbosity : Nat) (root : Option Path)
    (json noInfo : Bool) :
    let r := Log.read ((root <|> Log.documentOf? log).getD log) text
    let shown := shownOf noInfo (Diagnostic.sort r.diagnostics)
    (Command.parse s verbosity log root json noInfo).output =
      (if json then dataReport (Command.logRecord shown r)
        else listing s.results log.name shown).output := by
  intro r shown
  have hshown : Diagnostic.sort (shownOf noInfo r.diagnostics) = shown :=
    Diagnostic.sort_filter _ r.diagnostics
  have hreport : diagnosticsReport s.results log.name shown = listing s.results log.name shown := by
    rw [← hshown, diagnosticsReport_sort, diagnosticsReport_eq]
  rw [Command.parse, htext, ← hreport, ← hshown]
  rfl

/-- **Reports list diagnostics in order.** Sorting gives the same diagnostics, in the order of
severity and row, and leaves ties as they were found. Sorting twice is sorting once, and it does not
matter when diagnostics are left out. So a log that is read is listed as sorted once, without its
notes if these are not wanted, for programs and for people alike. If there is an error, the report
on the diagnostics begins with the first one found of the errors in the least row, and the report on
a failed build with these diagnostics shows this error. -/
theorem listed_in_order (ds : List Diagnostic) :
    (Diagnostic.sort ds).Perm ds ∧ Ordered (Diagnostic.sort ds) ∧
      (∀ d, tiesOf d (Diagnostic.sort ds) = tiesOf d ds) ∧
      Diagnostic.sort (Diagnostic.sort ds) = Diagnostic.sort ds ∧
      (∀ p, Diagnostic.sort (ds.filter p) = (Diagnostic.sort ds).filter p) ∧
      (∀ (s : Command.Surroundings) (verbosity : Nat) (log : Path) (root : Option Path)
        (noInfo : Bool) (text : Text), s.files.readText log = .ok text →
        let r := Log.read ((root <|> Log.documentOf? log).getD log) text
        r.diagnostics = ds →
          let shown := shownOf noInfo (Diagnostic.sort ds)
          (Command.parse s verbosity log root true noInfo).output =
              (dataReport (Command.logRecord shown r)).output ∧
            (Command.parse s verbosity log root false noInfo).output =
              (listing s.results log.name shown).output) ∧
      (hasErrors ds = true → ∃ front d behind rest, ds = front ++ d :: behind ∧ d.isError = true ∧
        (∀ e ∈ front, e.isError = true → d.startRow < e.startRow) ∧
        (∀ e ∈ behind, e.isError = true → d.startRow ≤ e.startRow) ∧
        Diagnostic.sort ds = d :: rest ∧
        (∀ screen title, diagnosticsReport screen title ds = listing screen title (d :: rest)) ∧
        ∀ (o : Outcome) (cwd log : Path), o.diagnostics = ds →
          failureRows cwd o log = (shownPath cwd log).map fun log =>
            [("Primary error".toList, locationText d ++ [':', ' '] ++ d.excerpt),
              ("Log file".toList, log),
              ("Next steps".toList, "Inspect the log or re-run with -v for details".toList)]) := by
  refine ⟨Diagnostic.sort_perm ds, Diagnostic.ordered_sort ds, fun d => Diagnostic.tiesOf_sort d ds,
    Diagnostic.sort_of_ordered (Diagnostic.ordered_sort ds),
    fun p => Diagnostic.sort_filter p ds, ?_, fun herror => ?_⟩
  · rintro s verbosity log root noInfo text htext r rfl
    exact ⟨output_parse htext verbosity root true noInfo,
      output_parse htext verbosity root false noInfo⟩
  · obtain ⟨front, d, behind, rest, hds, hd, hfront, hbehind, hsort⟩ :=
      Diagnostic.exists_first_error herror
    refine ⟨front, d, behind, rest, hds, hd, hfront, hbehind, hsort, fun screen title => ?_,
      fun o cwd log ho => ?_⟩
    · rw [diagnosticsReport_eq, hsort]
    · apply failureRows_eq
      rw [ho]
      exact primary?_eq_some hd hsort

/-- A log with a note and three errors, two of which are in the least row. -/
theorem listed_in_order_of_log :
    let log : Path := ⟨.root, ["a.log".toList]⟩
    let text := "\nLaTeX Info: So on input line 9.\n\n./a.tex:7: C\n./a.tex:2: A\n./a.tex:2: B\n"
    let files : Files := { nodes := [(["a.log".toList], .file text.toUTF8)] }
    let s : Command.Surroundings :=
      { files := files
        world := fun _ =>
          { before := files
            after := files
            refusal := fun _ => none
            exit := fun _ => 0
            elapsed := fun _ => 0
            readings := [] } }
    let ds := (Log.read ⟨.root, ["a.tex".toList]⟩ text.toList).diagnostics
    s.files.readText log = .ok text.toList ∧ hasErrors ds = true ∧
      ds.map Diagnostic.startRow = [8, 6, 1, 1] ∧
      (Command.parse s 0 log none false true).output =
        (listing none log.name (shownOf true (Diagnostic.sort ds))).output ∧
      ∃ d rest, d.isError = true ∧ d.startRow = 1 ∧ Diagnostic.sort ds = d :: rest := by
  intro log text files s ds
  have htext : s.files.readText log = .ok text.toList := by decide +kernel
  obtain ⟨herror, hrows, hleast⟩ : hasErrors ds = true ∧
      ds.map Diagnostic.startRow = [8, 6, 1, 1] ∧ ∀ d ∈ ds, d.isError = true →
        d.startRow = 1 ∨ ∃ e ∈ ds, e.isError = true ∧ e.startRow < d.startRow := by decide +kernel
  obtain ⟨-, -, -, -, -, hparse, hprimary⟩ := listed_in_order ds
  obtain ⟨front, d, behind, rest, hds, hd, hfront, hbehind, hsort, -⟩ := hprimary herror
  refine ⟨htext, herror, hrows, (hparse s 0 log none true text.toList htext rfl).2, d, rest, hd, ?_,
    hsort⟩
  rcases hleast d (by simp [hds]) hd with hrow | ⟨e, he, heerror, hlt⟩
  · exact hrow
  · rw [hds, List.mem_append, List.mem_cons] at he
    rcases he with he | rfl | he
    · have := hfront e he heerror
      omega
    · omega
    · have := hbehind e he heerror
      omega

end Console

end Typeset
