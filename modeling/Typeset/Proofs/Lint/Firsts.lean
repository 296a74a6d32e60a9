import Mathlib.Data.List.Basic
import Mathlib.Data.List.Induction
import Typeset.Lint
import Typeset.Proofs.Path.Written

/-!
# What a linter is told

Of the diagnostics that the configuration lets through, a linter is told the first one of each key.
Reading one diagnostic more changes nothing in front of it: its message is added at the end, or
nothing is, if the diagnostic is held back or its key was let through before. So the messages for a
list begin with those for its first part, and the second part adds the messages whose key is new.

## Main definitions

* `Lint.letThrough`: the diagnostics that the configuration lets through
* `Lint.IsFirst`: the places of the diagnostics that are told
* `Lint.Message.key`: what a message shows of the key of its diagnostic

## Main results

* `Lint.firsts_append`: what is taken of the second part of a list
* `Lint.kept_append`, `Lint.kept_concat`: the same for the diagnostics that are told
* `Lint.exists_places`: the diagnostics that are told stand at the places that come first
* `Lint.messages_firsts`: the messages for a list and for two lists in a row
-/

namespace Typeset.Lint

/-! ## Keys that were seen -/

section Seen

variable {seen seen' : List Key} {ds es : List Diagnostic}

/-- The order of the keys that were seen does not matter, nor how often each was. -/
theorem firsts_congr (h : ∀ k, k ∈ seen ↔ k ∈ seen') : firsts seen ds = firsts seen' ds := by
  induction ds generalizing seen seen' with
  | nil => rfl
  | cons d ds ih =>
    have hnext : ∀ k, k ∈ key d :: seen ↔ k ∈ key d :: seen' := by
      intro k
      rw [List.mem_cons, List.mem_cons, h]
    simp only [firsts, h, ih h, ih hnext]

/-- More keys that were seen take out the diagnostics with such a key, and no other ones. -/
theorem firsts_append_seen (seen more : List Key) (ds : List Diagnostic) :
    firsts (seen ++ more) ds = (firsts seen ds).filter fun d => key d ∉ more := by
  induction ds generalizing seen with
  | nil => rfl
  | cons d ds ih =>
    by_cases hseen : key d ∈ seen
    · rw [firsts, firsts, if_pos hseen, if_pos (List.mem_append_left _ hseen)]
      exact ih seen
    · rw [firsts, firsts, if_neg hseen]
      by_cases hmore : key d ∈ more
      · rw [if_pos (List.mem_append_right _ hmore), List.filter_cons_of_neg (by simpa using hmore),
          ← ih (key d :: seen)]
        apply firsts_congr
        intro k
        simp only [List.cons_append, List.mem_cons, List.mem_append]
        constructor
        · exact .inr
        · rintro (rfl | hk)
          · exact .inr hmore
          · exact hk
      · rw [if_neg (by simp [hseen, hmore]), List.filter_cons_of_pos (by simpa using hmore),
          ← ih (key d :: seen)]
        rfl

/-- Behind a first part, its keys were seen too. The key of the first diagnostic was seen whether
the diagnostic is taken or not. -/
theorem firsts_append (seen : List Key) (ds es : List Diagnostic) :
    firsts seen (ds ++ es) = firsts seen ds ++ firsts (ds.map key ++ seen) es := by
  induction ds generalizing seen with
  | nil => rfl
  | cons d ds ih =>
    have hcons : firsts (ds.map key ++ key d :: seen) es =
        firsts ((d :: ds).map key ++ seen) es := by
      apply firsts_congr
      intro k
      simp only [List.map_cons, List.cons_append, List.mem_cons, List.mem_append]
      exact or_left_comm
    rw [List.cons_append, firsts, firsts]
    split
    · next hd =>
      rw [ih, ← hcons]
      congr 1
      apply firsts_congr
      intro k
      simp only [List.mem_append, List.mem_cons]
      constructor
      · exact Or.imp_right .inr
      · rintro (hk | rfl | hk)
        · exact .inl hk
        · exact .inr hd
        · exact .inr hk
    · rw [ih, hcons, List.cons_append]

/-- A key of the list was seen before or is one of those taken. -/
theorem mem_seen_or_exists_of_mem {d : Diagnostic} (hd : d ∈ ds) :
    key d ∈ seen ∨ ∃ e ∈ firsts seen ds, key e = key d := by
  induction ds generalizing seen with
  | nil => cases hd
  | cons c ds ih =>
    rw [firsts]
    split
    · next hc =>
      rcases List.mem_cons.mp hd with rfl | hd
      · exact .inl hc
      · exact ih hd
    · rcases List.mem_cons.mp hd with rfl | hd
      · exact .inr ⟨d, List.mem_cons_self, rfl⟩
      · rcases ih hd with hk | ⟨e, he, hk⟩
        · rcases List.mem_cons.mp hk with hk | hk
          · exact .inr ⟨c, List.mem_cons_self, hk.symm⟩
          · exact .inl hk
        · exact .inr ⟨e, List.mem_cons_of_mem _ he, hk⟩

end Seen

/-! ## Diagnostics that are told -/

/-- The diagnostics that the configuration lets through. -/
def letThrough (o : LintOptions) (ds : List Diagnostic) : List Diagnostic :=
  ds.filter fun d => !suppressed o d.severity

variable (o : LintOptions) (ds es : List Diagnostic)

theorem kept_append :
    kept o (ds ++ es) =
      kept o ds ++ (kept o es).filter fun d => key d ∉ (letThrough o ds).map key := by
  rw [kept, List.filter_append, firsts_append, List.append_nil]
  congr 1
  exact firsts_append_seen [] ((letThrough o ds).map key) (letThrough o es)

/-- One diagnostic more is told if it is let through and its key was not before. -/
theorem kept_concat (d : Diagnostic) :
    kept o (ds ++ [d]) =
      kept o ds ++
        if suppressed o d.severity = false ∧ key d ∉ (letThrough o ds).map key then [d]
        else [] := by
  rw [kept_append]
  congr 1
  cases hd : suppressed o d.severity with
  | true => simp [kept, hd, firsts]
  | false => simp [kept, hd, firsts, List.filter_singleton, Bool.cond_decide]

/-- The diagnostic at place `i` is let through, and none in front of it with the same key is. -/
def IsFirst (o : LintOptions) (ds : List Diagnostic) (i : Nat) : Prop :=
  ∃ d, ds[i]? = some d ∧ suppressed o d.severity = false ∧
    ∀ j < i, ∀ e, ds[j]? = some e → suppressed o e.severity = false → key e ≠ key d

variable {o ds es}

theorem IsFirst.lt {i : Nat} (h : IsFirst o ds i) : i < ds.length := by
  obtain ⟨d, hd, -⟩ := h
  exact (List.getElem?_eq_some_iff.mp hd).1

theorem mem_keys_letThrough {k : Key} :
    k ∈ (letThrough o ds).map key ↔
      ∃ e ∈ ds, suppressed o e.severity = false ∧ key e = k := by
  simp [letThrough, and_assoc]

/-- What comes behind a diagnostic does not matter to it. -/
theorem isFirst_append_iff {i : Nat} (hi : i < ds.length) :
    IsFirst o (ds ++ es) i ↔ IsFirst o ds i := by
  have hfront : ∀ j ≤ i, (ds ++ es)[j]? = ds[j]? := fun j hj =>
    List.getElem?_append_left (Nat.lt_of_le_of_lt hj hi)
  constructor
  · rintro ⟨d, hd, hthrough, hnew⟩
    rw [hfront i (Nat.le_refl i)] at hd
    refine ⟨d, hd, hthrough, fun j hj e he => hnew j hj e ?_⟩
    rwa [hfront j (Nat.le_of_lt hj)]
  · rintro ⟨d, hd, hthrough, hnew⟩
    refine ⟨d, (hfront i (Nat.le_refl i)).trans hd, hthrough, fun j hj e he => hnew j hj e ?_⟩
    rwa [← hfront j (Nat.le_of_lt hj)]

theorem isFirst_length_iff {d : Diagnostic} :
    IsFirst o (ds ++ [d]) ds.length ↔
      suppressed o d.severity = false ∧ key d ∉ (letThrough o ds).map key := by
  have hlast : (ds ++ [d])[ds.length]? = some d := List.getElem?_concat_length
  rw [mem_keys_letThrough]
  constructor
  · rintro ⟨d', hd', hthrough, hnew⟩
    obtain rfl := Option.some.inj (hlast.symm.trans hd')
    refine ⟨hthrough, ?_⟩
    rintro ⟨e, he, hthrough', hkey⟩
    obtain ⟨j, hj, rfl⟩ := List.getElem_of_mem he
    apply hnew j hj ds[j] _ hthrough' hkey
    rw [List.getElem?_append_left hj, List.getElem?_eq_getElem hj]
  · rintro ⟨hthrough, hnew⟩
    refine ⟨d, hlast, hthrough, ?_⟩
    intro j hj e he hthrough' hkey
    rw [List.getElem?_append_left hj] at he
    exact hnew ⟨e, List.mem_of_getElem? he, hthrough', hkey⟩

/-- The diagnostics that are told are those at the first places, in their order. One more diagnostic
is told at its place or not at all. -/
theorem exists_places (o : LintOptions) (ds : List Diagnostic) :
    ∃ places : List Nat, places.Pairwise (· < ·) ∧ (∀ i, i ∈ places ↔ IsFirst o ds i) ∧
      kept o ds = places.filterMap (ds[·]?) := by
  induction ds using List.reverseRecOn with
  | nil => exact ⟨[], .nil, fun i => by simp [IsFirst], rfl⟩
  | append_singleton ds d ih =>
    obtain ⟨places, hlt, hmem, hkept⟩ := ih
    have hbound : ∀ i ∈ places, i < ds.length := fun i hi => ((hmem i).mp hi).lt
    have hfront : places.filterMap ((ds ++ [d])[·]?) = places.filterMap (ds[·]?) :=
      List.filterMap_congr fun i hi => List.getElem?_append_left (hbound i hi)
    have hsplit : ∀ i, IsFirst o (ds ++ [d]) i ↔
        IsFirst o ds i ∨ i = ds.length ∧ IsFirst o (ds ++ [d]) ds.length := by
      intro i
      rcases Nat.lt_trichotomy i ds.length with hi | rfl | hi
      · simp [isFirst_append_iff hi, Nat.ne_of_lt hi]
      · simp only [true_and, iff_or_self]
        exact fun h => absurd h.lt (Nat.lt_irrefl _)
      · have hnot : ¬ IsFirst o ds i := fun h => Nat.lt_asymm hi h.lt
        have hnot' : ¬ IsFirst o (ds ++ [d]) i := by
          intro h
          have := h.lt
          rw [List.length_append, List.length_singleton] at this
          omega
        simp [hnot, hnot', Nat.ne_of_gt hi]
    by_cases hd : IsFirst o (ds ++ [d]) ds.length
    · refine ⟨places ++ [ds.length], ?_, fun i => ?_, ?_⟩
      · rw [List.pairwise_append]
        refine ⟨hlt, List.pairwise_singleton _ _, fun i hi j hj => ?_⟩
        rw [List.mem_singleton.mp hj]
        exact hbound i hi
      · simp [hsplit i, hmem, hd]
      · rw [kept_concat, if_pos (isFirst_length_iff.mp hd), List.filterMap_append, hfront, hkept]
        simp
    · refine ⟨places, hlt, fun i => by simp [hsplit i, hmem, hd], ?_⟩
      rw [kept_concat, if_neg fun h => hd (isFirst_length_iff.mpr h), List.append_nil, hfront,
        hkept]

/-- Each key that is let through is told. -/
theorem exists_kept_of_mem {d : Diagnostic} (hd : d ∈ ds)
    (hthrough : suppressed o d.severity = false) : ∃ e ∈ kept o ds, key e = key d := by
  have hmem : d ∈ letThrough o ds := List.mem_filter.mpr ⟨hd, by simp [hthrough]⟩
  exact (mem_seen_or_exists_of_mem hmem).resolve_left List.not_mem_nil

/-! ## Messages -/

/-- The key of the diagnostic that a message is for, which the message shows. -/
def Message.key (m : Message) : Key := ⟨m.severity, m.path, m.span.start, m.excerpt⟩

@[simp] theorem key_message (o : LintOptions) (d : Diagnostic) : (message o d).key = key d := rfl

theorem map_key_messages (o : LintOptions) (ds : List Diagnostic) :
    (messages o ds).map Message.key = (kept o ds).map key := by
  rw [messages, List.map_map]
  rfl

/-- Keys are compared by what is written of them, if the paths are such as texts are read as. -/
theorem key_eq_iff {d e : Diagnostic} (hd : d.location.path.IsClean)
    (he : e.location.path.IsClean) :
    key d = key e ↔
      d.severity = e.severity ∧ d.location.path.str = e.location.path.str ∧
        d.location.span.start = e.location.span.start ∧ d.excerpt = e.excerpt := by
  rw [key, key, Key.mk.injEq]
  constructor
  · rintro ⟨hseverity, hpath, hstart, hexcerpt⟩
    exact ⟨hseverity, congrArg Path.str hpath, hstart, hexcerpt⟩
  · rintro ⟨hseverity, hpath, hstart, hexcerpt⟩
    exact ⟨hseverity, Path.eq_of_str_eq hd he hpath, hstart, hexcerpt⟩

/-- **A linter is told the first diagnostic of each key.** The messages for a list of diagnostics
are those for the diagnostics at some places of it, in order: the places of the diagnostics that the
configuration lets through and in front of which no other one with the same key is let through. So
no two messages show the same key, and each key that is let through is shown. Two lists in a row
have the messages of the first one, and those of the second one whose key the first one does not let
through. Of a path a key holds what is written of it. -/
theorem messages_firsts (o : LintOptions) (ds : List Diagnostic) :
    (∃ places : List Nat, places.Pairwise (· < ·) ∧ (∀ i, i ∈ places ↔ IsFirst o ds i) ∧
        messages o ds = (places.filterMap (ds[·]?)).map (message o)) ∧
      ((messages o ds).map Message.key).Nodup ∧
      (∀ d ∈ ds, suppressed o d.severity = false → ∃ m ∈ messages o ds, m.key = key d) ∧
      (∀ es, messages o (ds ++ es) =
        messages o ds ++ (messages o es).filter fun m => m.key ∉ (letThrough o ds).map key) ∧
      ∀ d e : Diagnostic, d.location.path.IsClean → e.location.path.IsClean →
        (key d = key e ↔
          d.severity = e.severity ∧ d.location.path.str = e.location.path.str ∧
            d.location.span.start = e.location.span.start ∧ d.excerpt = e.excerpt) := by
  refine ⟨?_, ?_, ?_, ?_, fun d e => key_eq_iff⟩
  · obtain ⟨places, hlt, hmem, hkept⟩ := exists_places o ds
    exact ⟨places, hlt, hmem, by rw [messages, hkept]⟩
  · rw [map_key_messages]
    exact kept_keys_nodup o ds
  · intro d hd hthrough
    obtain ⟨e, he, hkey⟩ := exists_kept_of_mem hd hthrough
    exact ⟨message o e, List.mem_map_of_mem he, hkey⟩
  · intro es
    rw [messages, kept_append, List.map_append, ← messages, messages, messages, List.filter_map]
    rfl

end Typeset.Lint
