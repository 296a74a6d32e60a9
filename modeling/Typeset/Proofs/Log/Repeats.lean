import Mathlib.Data.List.SplitBy
import Mathlib.Data.List.Pairwise
import Typeset.Log.Interpreter

/-!
# Repeated diagnostics

A log says some things several times in a row. Two diagnostics are repeats of one another if they
agree in the file, the first source row and the text. The diagnostics that are found fall into
maximal runs of repeats, and the report keeps the first one of each run. So it depends on the
diagnostic right before it alone whether a diagnostic is kept, not on those further up.

## Main definitions

* `Log.IsRuns`, `Log.runs`: the maximal runs of neighbours with equal keys
* `Log.runHeads`: the first items of the runs

## Main results

* `Log.dropRepeats_none`: dropping repeats keeps the first items of the runs
* `Log.runHeads_concat_of_ne`, `Log.runHeads_concat_of_eq`: when an item is kept
* `Log.runHeads_apart`: equal items with a different one between them are not dropped as one
* `Log.diagnostics_eq_runHeads`: the diagnostics of a report
-/

namespace Typeset.Log

section Runs

variable {α κ : Type} (key : α → κ)

/-- The lists `rs` are the maximal runs of items with equal keys in the list `as`. -/
structure IsRuns (as : List α) (rs : List (List α)) : Prop where
  flatten : rs.flatten = as
  ne_nil : ∀ r ∈ rs, r ≠ []
  key_eq : ∀ r ∈ rs, ∀ a ∈ r, ∀ b ∈ r, key a = key b
  key_ne : rs.IsChain fun r r' => ∀ a ∈ r, ∀ b ∈ r', key a ≠ key b

variable [DecidableEq κ]

/-- The maximal runs of items with equal keys. -/
def runs (as : List α) : List (List α) := as.splitBy fun a b => key a = key b

/-- The first item of each run. -/
def runHeads (as : List α) : List α := (runs key as).filterMap List.head?

variable {key} {as bs : List α} {a b : α}

/-- Where neighbours have equal keys, all have. -/
theorem key_eq_of_isChain {r : List α} (h : r.IsChain fun a b => decide (key a = key b) = true) :
    ∀ a ∈ r, ∀ b ∈ r, key a = key b := by
  suffices hfirst : ∀ k ∈ (r.map key).head?, ∀ a ∈ r, key a = k by
    intro a ha b hb
    obtain ⟨k, hk⟩ : ∃ k, (r.map key).head? = some k := by
      cases r with
      | nil => cases ha
      | cons c r => exact ⟨_, rfl⟩
    rw [hfirst k hk a ha, hfirst k hk b hb]
  induction h with
  | nil => exact fun _ _ _ ha => nomatch ha
  | singleton a => simp
  | cons_cons hab _ ih =>
    rintro _ ⟨⟩ c hc
    rcases List.mem_cons.mp hc with rfl | hc
    · rfl
    · exact (ih _ rfl c hc).trans (of_decide_eq_true hab).symm

/-- The last item of a run and the first one of the next differ, and stand for their runs. -/
theorem isRuns_runs (as : List α) : IsRuns key as (runs key as) where
  flatten := List.flatten_splitBy _ _
  ne_nil _ hr := List.ne_nil_of_mem_splitBy hr
  key_eq _ hr := key_eq_of_isChain (List.isChain_of_mem_splitBy hr)
  key_ne := by
    have hchain := List.isChain_getLast_head_splitBy (fun a b => decide (key a = key b)) as
    refine hchain.imp_of_mem_imp fun r r' hr hr' ⟨hne, hne', hlast⟩ a ha b hb => ?_
    have heq := key_eq_of_isChain (List.isChain_of_mem_splitBy hr) _ ha _ (List.getLast_mem hne)
    have heq' := key_eq_of_isChain (List.isChain_of_mem_splitBy hr') _ hb _ (List.head_mem hne')
    rw [heq, heq']
    exact of_decide_eq_false hlast

/-- The runs depend on the keys only by which of them are equal. -/
theorem runHeads_congr {ι : Type} [DecidableEq ι] {key' : α → ι}
    (h : ∀ a b, key a = key b ↔ key' a = key' b) (as : List α) :
    runHeads key as = runHeads key' as := by
  simp only [runHeads, runs, h]

/-! ## Dropping repeats -/

/-- Items with the key kept last are dropped. -/
theorem dropRepeats_append_of_forall {k : κ} (h : ∀ a ∈ as, key a = k) (bs : List α) :
    dropRepeats key (some k) (as ++ bs) = dropRepeats key (some k) bs := by
  induction as with
  | nil => rfl
  | cons a as ih =>
    obtain ⟨ha, has⟩ := List.forall_mem_cons.mp h
    rw [List.cons_append, dropRepeats, if_pos (congrArg some ha.symm), ih has]

/-- Of each run the first item is kept, if the first run is not a repeat of what was kept last. The
key of a run is what is kept last in front of the next one. -/
theorem IsRuns.dropRepeats {rs : List (List α)} (h : IsRuns key as rs) {last : Option κ}
    (hlast : ∀ r ∈ rs.head?, ∀ a ∈ r, last ≠ some (key a)) :
    dropRepeats key last as = rs.filterMap List.head? := by
  induction rs generalizing as last with
  | nil => rw [← h.flatten]; rfl
  | cons r rs ih =>
    obtain ⟨a, r, rfl⟩ := List.exists_cons_of_ne_nil (h.ne_nil r List.mem_cons_self)
    have hrest : IsRuns key rs.flatten rs :=
      ⟨rfl, fun r hr => h.ne_nil r (List.mem_cons_of_mem _ hr),
        fun r hr => h.key_eq r (List.mem_cons_of_mem _ hr), h.key_ne.tail⟩
    have hr : ∀ b ∈ r, key b = key a := fun b hb =>
      h.key_eq _ List.mem_cons_self b (List.mem_cons_of_mem _ hb) a List.mem_cons_self
    have hnext : ∀ r' ∈ rs.head?, ∀ b ∈ r', some (key a) ≠ some (key b) := fun r' hr' b hb heq =>
      (List.isChain_cons.mp h.key_ne).1 r' hr' a List.mem_cons_self b hb (Option.some.inj heq)
    rw [← h.flatten, List.flatten_cons, List.cons_append, Log.dropRepeats,
      if_neg (hlast _ rfl a List.mem_cons_self), dropRepeats_append_of_forall hr, ih hrest hnext]
    rfl

/-- Dropping repeats keeps the first items of the runs. -/
theorem dropRepeats_none (as : List α) : dropRepeats key none as = runHeads key as :=
  (isRuns_runs as).dropRepeats fun _ _ _ _ => by simp

/-- What was kept last has the key of the last item. -/
theorem getLast?_dropRepeats (key : α → κ) (last : Option κ) (as : List α) :
    ((dropRepeats key last as).getLast?.map key).or last = (as.getLast?.map key).or last := by
  induction as generalizing last with
  | nil => rfl
  | cons a as ih =>
    have hnext : ((as.getLast?.map key).or (some (key a))) =
        ((a :: as).getLast?.map key).or last := by
      rw [List.getLast?_cons]
      cases as.getLast? <;> rfl
    rw [dropRepeats, ← hnext]
    split
    · next heq => rw [ih, heq]
    · rw [← ih (some (key a)), List.getLast?_cons]
      cases (dropRepeats key (some (key a)) as).getLast? <;> rfl

theorem isChain_dropRepeats (key : α → κ) (last : Option κ) (as : List α) :
    (∀ a ∈ (dropRepeats key last as).head?, last ≠ some (key a)) ∧
      (dropRepeats key last as).IsChain fun a b => key a ≠ key b := by
  induction as generalizing last with
  | nil =>
    refine ⟨?_, .nil⟩
    rintro _ ⟨⟩
  | cons a as ih =>
    rw [dropRepeats]
    split
    · exact ih last
    · next hne =>
      obtain ⟨hhead, hchain⟩ := ih (some (key a))
      refine ⟨?_, List.isChain_cons.mpr ⟨fun b hb heq => ?_, hchain⟩⟩
      · rintro _ ⟨⟩
        exact hne
      · exact hhead b hb (congrArg some heq)

/-! ## The first items of the runs -/

/-- No two neighbours among the first items of the runs are equal in their keys. -/
theorem isChain_runHeads (key : α → κ) (as : List α) :
    (runHeads key as).IsChain fun a b => key a ≠ key b := by
  rw [← dropRepeats_none]
  exact (isChain_dropRepeats key none as).2

theorem getLast?_runHeads (key : α → κ) (as : List α) :
    (runHeads key as).getLast?.map key = as.getLast?.map key := by
  simpa only [dropRepeats_none, Option.or_none] using getLast?_dropRepeats key none as

theorem runHeads_append (key : α → κ) (as bs : List α) :
    runHeads key (as ++ bs) = runHeads key as ++ dropRepeats key (as.getLast?.map key) bs := by
  rw [← dropRepeats_none, dropRepeats_append, dropRepeats_none, getLast?_runHeads, Option.or_none]

theorem runHeads_isPrefix (key : α → κ) (as bs : List α) :
    runHeads key as <+: runHeads key (as ++ bs) := by
  rw [runHeads_append]
  exact List.prefix_append _ _

/-- An item is kept if the one right before it has another key, whatever the keys further up. -/
theorem runHeads_concat_of_ne (h : as.getLast?.map key ≠ some (key a)) :
    runHeads key (as ++ [a]) = runHeads key as ++ [a] := by
  rw [runHeads_append, dropRepeats, if_neg h, dropRepeats]

/-- An item is dropped if the one right before it has its key; the one kept last has it too. -/
theorem runHeads_concat_of_eq (h : as.getLast?.map key = some (key a)) :
    runHeads key (as ++ [a]) = runHeads key as ∧
      ∃ before b, runHeads key as = before ++ [b] ∧ key b = key a := by
  refine ⟨by rw [runHeads_append, dropRepeats, if_pos h, dropRepeats, List.append_nil], ?_⟩
  rw [← getLast?_runHeads] at h
  obtain ⟨b, hb, hkey⟩ := Option.map_eq_some_iff.mp h
  obtain ⟨before, hbefore⟩ := List.getLast?_eq_some_iff.mp hb
  exact ⟨before, b, hbefore, hkey⟩

/-- Up to an item, one with its key is kept last. -/
theorem exists_runHeads_concat (key : α → κ) (as : List α) (a : α) :
    ∃ before b, runHeads key (as ++ [a]) = before ++ [b] ∧ key b = key a := by
  by_cases h : as.getLast?.map key = some (key a)
  · rw [(runHeads_concat_of_eq h).1]
    exact (runHeads_concat_of_eq h).2
  · exact ⟨_, a, runHeads_concat_of_ne h, rfl⟩

/-- Behind an item, one with the key of a different item is kept. Otherwise what is kept last in
front of it would have both keys. -/
theorem exists_runHeads_between (key : α → κ) (as bs : List α) (h : key a ≠ key b) :
    ∃ middle b', runHeads key (as ++ a :: bs ++ [b]) = runHeads key (as ++ [a]) ++ middle ++ [b'] ∧
      key b' = key b := by
  obtain ⟨before, a', ha', hkey⟩ := exists_runHeads_concat key as a
  obtain ⟨front, b', hb', hkey'⟩ := exists_runHeads_concat key (as ++ a :: bs) b
  obtain ⟨more, hmore⟩ : runHeads key (as ++ [a]) <+: runHeads key (as ++ a :: bs ++ [b]) := by
    simpa using runHeads_isPrefix key (as ++ [a]) (bs ++ [b])
  rcases List.eq_nil_or_concat more with rfl | ⟨middle, c, rfl⟩
  · rw [List.append_nil, ha', hb'] at hmore
    obtain ⟨-, heq⟩ := List.append_inj' hmore rfl
    obtain rfl : a' = b' := by simpa using heq
    exact absurd (hkey.symm.trans hkey') h
  · rw [hb', List.concat_eq_append, ← List.append_assoc] at hmore
    obtain ⟨hfront, heq⟩ := List.append_inj' hmore rfl
    obtain rfl : c = b' := by simpa using heq
    exact ⟨middle, c, by rw [hb', hfront], hkey'⟩

/-- Items with equal keys are not dropped as one if a different one stands between them. -/
theorem runHeads_apart (before between between' after : List α) {a b a' : α}
    (heq : key a = key a') (hne : key a ≠ key b) :
    ∃ front c middle c' rest,
      runHeads key (before ++ a :: between ++ b :: between' ++ a' :: after) =
        front ++ c :: middle ++ c' :: rest ∧
      key c = key a ∧ key c' = key a ∧ ∃ d ∈ middle, key d = key b := by
  obtain ⟨front, c, hc, hkey⟩ := exists_runHeads_concat key before a
  obtain ⟨middle, d, hd, hkey'⟩ := exists_runHeads_between key before between hne
  obtain ⟨middle', c', hc', hkey''⟩ := exists_runHeads_between key
    (before ++ a :: between) between' (fun h => hne (heq.trans h.symm))
  obtain ⟨rest, hrest⟩ := runHeads_isPrefix key
    (before ++ a :: between ++ b :: between' ++ [a']) after
  refine ⟨front, c, middle ++ d :: middle', c', rest, ?_, hkey, hkey''.trans heq.symm, d, by simp,
    hkey'⟩
  rw [List.append_assoc _ [a'], List.singleton_append] at hrest
  rw [← hrest, hc', hd, hc]
  simp only [List.append_assoc, List.cons_append, List.nil_append]

end Runs

/-! ## The diagnostics of a report -/

/-- **Repeats collapse to the first of them.** The diagnostics of a report are the first ones of
the maximal runs of repeats among all that are found, in log order. So no two neighbours are
repeats. A diagnostic is kept if the one found right before it is no repeat of it; otherwise it is
dropped, and the one kept last before it is a repeat of it. Repeats with a different diagnostic
between them are kept apart. -/
theorem diagnostics_eq_runHeads (root : Path) (log : Text) :
    let all := found (logSegments root log)
    let kept := runHeads repeatKey
    IsRuns repeatKey all (runs repeatKey all) ∧
      (read root log).diagnostics = kept all ∧
      (kept all).IsChain (fun d e => repeatKey d ≠ repeatKey e) ∧
      (∀ before d after, all = before ++ d :: after →
        kept (before ++ [d]) <+: kept all ∧
          (before.getLast?.map repeatKey ≠ some (repeatKey d) ∧
              kept (before ++ [d]) = kept before ++ [d] ∨
            before.getLast?.map repeatKey = some (repeatKey d) ∧
              kept (before ++ [d]) = kept before ∧
              ∃ front e, kept before = front ++ [e] ∧ repeatKey e = repeatKey d)) ∧
      ∀ before d between e between' d' after,
        all = before ++ d :: between ++ e :: between' ++ d' :: after →
        repeatKey d = repeatKey d' → repeatKey d ≠ repeatKey e →
        ∃ front k middle k' rest, kept all = front ++ k :: middle ++ k' :: rest ∧
          repeatKey k = repeatKey d ∧ repeatKey k' = repeatKey d ∧
          ∃ m ∈ middle, repeatKey m = repeatKey e := by
  intro all kept
  refine ⟨isRuns_runs all, dropRepeats_none all, isChain_runHeads repeatKey all, ?_, ?_⟩
  · intro before d after hall
    have hfront : kept (before ++ [d]) <+: kept all := by
      have h := runHeads_isPrefix repeatKey (before ++ [d]) after
      rwa [List.append_assoc, List.singleton_append, ← hall] at h
    refine ⟨hfront, ?_⟩
    by_cases h : before.getLast?.map repeatKey = some (repeatKey d)
    · exact .inr ⟨h, runHeads_concat_of_eq h⟩
    · exact .inl ⟨h, runHeads_concat_of_ne h⟩
  · intro before d between e between' d' after hall heq hne
    rw [hall]
    exact runHeads_apart before between between' after heq hne

end Typeset.Log
