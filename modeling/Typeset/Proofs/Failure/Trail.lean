import Mathlib.Data.Finset.Card
import Mathlib.Logic.Relation
import Typeset.Failure
import Typeset.Proofs.Text.Headline

/-!
# The way along the links

From a failure the way goes on to its cause, or else to its context, and ends where there is neither
or where it has been before. Every step takes it to a place of the list that is new, so it comes to
an end. It visits exactly the failures to which links lead.

The way from the failure behind the first one is the rest of the way from the first one, since both
go the same steps. Only if the links lead back to the first failure it is visited in the end, where
the other way stops.

## Main definitions

* `Failure.Leads`: a failure names another one of the list
* `Failure.Walk`: the way along the links

## Main results

* `Failure.walk_trailWithin`: the way has an end
* `Failure.Walk.mem_iff`: it visits what links lead to
* `Failure.Walk.forget`: the way with one place that was seen before forgotten
* `Failure.told_along_links`: what is told about failures
-/

namespace Typeset.Failure

open Relation (ReflTransGen TransGen)

variable {fs : List Failure} {seen places places' : List Nat} {start : Option Nat} {i j : Nat}

/-- A failure of the list names another one as what is behind it. -/
def Leads (fs : List Failure) (i j : Nat) : Prop :=
  ∃ f, fs[i]? = some f ∧ f.behind = some j ∧ j < fs.length

/-- The way along the links from a starting place, past none of the places in `seen`: a loop that
goes on as long as it comes to a new failure. -/
inductive Walk (fs : List Failure) : List Nat → Option Nat → List Nat → Prop where
  | stop {seen : List Nat} : Walk fs seen none []
  | again {seen : List Nat} {i : Nat} (hi : i ∈ seen) : Walk fs seen (some i) []
  | outside {seen : List Nat} {i : Nat} (hi : fs[i]? = none) : Walk fs seen (some i) []
  | visit {seen places : List Nat} {i : Nat} {f : Failure} (hi : i ∉ seen) (hf : fs[i]? = some f)
    (rest : Walk fs (i :: seen) f.behind places) : Walk fs seen (some i) (i :: places)

namespace Walk

theorem unique (h : Walk fs seen start places) (h' : Walk fs seen start places') :
    places' = places := by
  induction h generalizing places' with
  | stop =>
    cases h'
    rfl
  | again hi =>
    cases h' with
    | again | outside => rfl
    | visit hi' => exact absurd hi hi'
  | outside hi =>
    cases h' with
    | again | outside => rfl
    | visit _ hf => cases hf.symm.trans hi
  | visit hi hf _ ih =>
    cases h' with
    | again hi' => exact absurd hi' hi
    | outside hi' => cases hf.symm.trans hi'
    | visit _ hf' rest' =>
      obtain rfl := Option.some.inj (hf.symm.trans hf')
      rw [ih rest']

/-- The places are those of failures of the list. -/
theorem lt_length (h : Walk fs seen start places) : ∀ i ∈ places, i < fs.length := by
  induction h with
  | stop | again | outside => exact List.forall_mem_nil _
  | visit _ hf _ ih => exact List.forall_mem_cons.mpr ⟨(List.getElem?_eq_some_iff.mp hf).1, ih⟩

/-- Every place comes first or behind one that leads to it. -/
theorem isChain (h : Walk fs seen start places) :
    places.IsChain (Leads fs) ∧ ∀ i ∈ places.head?, start = some i := by
  induction h with
  | stop | again | outside => exact ⟨.nil, by simp⟩
  | @visit seen places i f hi hf rest ih =>
    refine ⟨?_, by simp⟩
    cases places with
    | nil => exact .singleton i
    | cons j places =>
      exact .cons_cons ⟨f, hf, ih.2 j rfl, rest.lt_length j List.mem_cons_self⟩ ih.1

/-- Links lead from the start to every place of the way. -/
theorem reachable (h : Walk fs seen start places) (hj : j ∈ places) :
    ∃ i, start = some i ∧ i < fs.length ∧ ReflTransGen (Leads fs) i j := by
  induction h with
  | stop | again | outside => cases hj
  | @visit seen places i f hi hf rest ih =>
    refine ⟨i, rfl, (List.getElem?_eq_some_iff.mp hf).1, ?_⟩
    rcases List.mem_cons.mp hj with rfl | hj
    · exact .refl
    · obtain ⟨next, hnext, hlt, hreach⟩ := ih hj
      exact .head ⟨f, hf, hnext, hlt⟩ hreach

/-- The way has been at its start. -/
theorem mem_start (h : Walk fs seen (some i) places) (hi : i < fs.length) :
    i ∈ places ∨ i ∈ seen := by
  cases h with
  | again hi' => exact .inr hi'
  | outside hi' => exact absurd hi (Nat.not_lt.mpr (List.getElem?_eq_none_iff.mp hi'))
  | visit => exact .inl List.mem_cons_self

/-- Where a link leads from the way, it has been. What the rest of the way has seen is what the
whole way has seen, and the place it came from. -/
theorem closed (h : Walk fs seen start places) (hi : i ∈ places) (hij : Leads fs i j) :
    j ∈ places ∨ j ∈ seen := by
  induction h with
  | stop | again | outside => cases hi
  | @visit seen places k f hk hf rest ih =>
    have hwhole : j ∈ places ∨ j ∈ k :: seen → j ∈ k :: places ∨ j ∈ seen := by
      rw [List.mem_cons, List.mem_cons]
      rintro (hj | hj | hj)
      · exact .inl (.inr hj)
      · exact .inl (.inl hj)
      · exact .inr hj
    apply hwhole
    rcases List.mem_cons.mp hi with rfl | hi
    · obtain ⟨f', hf', hnext, hlt⟩ := hij
      obtain rfl := Option.some.inj (hf.symm.trans hf')
      rw [hnext] at rest
      exact rest.mem_start hlt
    · exact ih hi

/-- The way visits what links lead to. Nothing was seen before it, so it has been at its start and
wherever links lead from it. -/
theorem mem_iff (h : Walk fs [] (some i) places) (hi : i < fs.length) :
    j ∈ places ↔ ReflTransGen (Leads fs) i j := by
  constructor
  · intro hj
    obtain ⟨_, hstart, -, hreach⟩ := h.reachable hj
    obtain rfl := Option.some.inj hstart
    exact hreach
  · intro hreach
    have hvisited {k : Nat} (hk : k ∈ places ∨ k ∈ ([] : List Nat)) : k ∈ places := by
      simpa using hk
    induction hreach with
    | refl => exact hvisited (h.mem_start hi)
    | tail _ hjk ih => exact hvisited (h.closed ih hjk)

/-- The way behind a failure visits what links lead to from it. -/
theorem mem_iff_transGen {f : Failure} (hf : fs[i]? = some f) (h : Walk fs [] f.behind places) :
    j ∈ places ↔ TransGen (Leads fs) i j := by
  constructor
  · intro hj
    obtain ⟨next, hnext, hlt, hreach⟩ := h.reachable hj
    exact .head' ⟨f, hf, hnext, hlt⟩ hreach
  · intro hj
    obtain ⟨next, ⟨f', hf', hnext, hlt⟩, hreach⟩ := TransGen.head'_iff.mp hj
    obtain rfl := Option.some.inj (hf.symm.trans hf')
    rw [hnext] at h
    exact (h.mem_iff hlt).mpr hreach

theorem mem_cons_of_next {next : Option Nat}
    (hnext : ∀ k, next = some k → some i = some k ∨ k ∈ seen) {k : Nat} (hk : next = some k) :
    k ∈ i :: seen := by
  rcases hnext k hk with h | h
  · exact Option.some.inj h ▸ List.mem_cons_self
  · exact List.mem_cons_of_mem i h

/-- If one of the places that were seen is forgotten, behind which the way has gone on, then the way
stops no earlier than before, and at this place if it stops later. Where the way comes back to the
place, what is behind the place has been seen. -/
theorem forget {s : Nat} {f : Failure} (hs : fs[s]? = some f) {seen' : List Nat}
    (h : Walk fs seen' start places) (hseen : ∀ k, k ∈ seen' ↔ k = s ∨ k ∈ seen) (hnew : s ∉ seen)
    (hnext : ∀ k, f.behind = some k → start = some k ∨ k ∈ seen) :
    ∃ last, (last = [] ∨ last = [s]) ∧ Walk fs seen start (places ++ last) := by
  induction h generalizing seen with
  | stop => exact ⟨[], .inl rfl, .stop⟩
  | outside hi => exact ⟨[], .inl rfl, .outside hi⟩
  | @again seen' i hi =>
    rcases (hseen i).mp hi with rfl | hi
    · refine ⟨[i], .inr rfl, .visit hnew hs ?_⟩
      cases hbehind : f.behind with
      | none => exact .stop
      | some k => exact .again (mem_cons_of_next hnext hbehind)
    · exact ⟨[], .inl rfl, .again hi⟩
  | @visit seen' places i g hi hg rest ih =>
    obtain ⟨his, hinew⟩ : i ≠ s ∧ i ∉ seen := by simpa [hseen] using hi
    have hseen' : ∀ k, k ∈ i :: seen' ↔ k = s ∨ k ∈ i :: seen := by
      intro k
      rw [List.mem_cons, List.mem_cons, hseen, or_left_comm]
    have hnew' : s ∉ i :: seen := List.not_mem_cons_of_ne_of_not_mem his.symm hnew
    obtain ⟨last, hlast, hwalk⟩ := ih hseen' hnew' fun k hk => .inr (mem_cons_of_next hnext hk)
    exact ⟨last, hlast, .visit hinew hg hwalk⟩

end Walk

/-- As many different places as there are must be all of them. -/
theorem mem_of_nodup {n : Nat} (hnodup : seen.Nodup) (hlt : ∀ i ∈ seen, i < n)
    (hlength : n ≤ seen.length) (hi : i < n) : i ∈ seen := by
  have hsubset : seen.toFinset ⊆ Finset.range n := by
    intro k hk
    exact Finset.mem_range.mpr (hlt k (List.mem_toFinset.mp hk))
  have hcard : (Finset.range n).card ≤ seen.toFinset.card := by
    rwa [Finset.card_range, List.toFinset_card_of_nodup hnodup]
  have hall := Finset.eq_of_subset_of_card_le hsubset hcard
  exact List.mem_toFinset.mp (hall ▸ Finset.mem_range.mpr hi)

/-- Every step takes the way to a new place, so it has an end. Each step uses up one unit of fuel
and makes one more place seen, and once all have been seen the way comes back. -/
theorem walk_trailWithin {fuel : Nat} (hfuel : fs.length ≤ fuel + seen.length) (hseen : seen.Nodup)
    (hplaces : ∀ i ∈ seen, i < fs.length) (start : Option Nat) :
    Walk fs seen start (trailWithin fs fuel seen start) := by
  induction fuel generalizing seen start with
  | zero =>
    cases start with
    | none => exact .stop
    | some i =>
      rcases Nat.lt_or_ge i fs.length with hi | hi
      · exact .again (mem_of_nodup hseen hplaces (by omega) hi)
      · exact .outside (List.getElem?_eq_none_iff.mpr hi)
  | succ fuel ih =>
    cases start with
    | none => exact .stop
    | some i =>
      unfold trailWithin
      split
      · next hi => exact .again hi
      · next hi =>
        cases hf : fs[i]? with
        | none => exact .outside hf
        | some f =>
          refine .visit hi hf (ih ?_ (List.nodup_cons.mpr ⟨hi, hseen⟩) ?_ f.behind)
          · rw [List.length_cons]
            omega
          · exact List.forall_mem_cons.mpr ⟨(List.getElem?_eq_some_iff.mp hf).1, hplaces⟩

/-- The way from a place has one course, and this is the one that is gone. -/
theorem walk_iff : Walk fs [] start places ↔ places = trailWithin fs fs.length [] start := by
  have hwalk : Walk fs [] start (trailWithin fs fs.length [] start) :=
    walk_trailWithin (Nat.le_add_right _ _) .nil (List.forall_mem_nil _) start
  exact ⟨fun h => hwalk.unique h, fun h => h ▸ hwalk⟩

/-! ## What is told -/

/-- What a failure tells is the headline of its text. -/
theorem firstLine_eq (f : Failure) :
    f.firstLine =
      if Text.isBlankLine f.text.toList then none else Text.headline? f.text.toList := by
  unfold firstLine
  cases hblank : Text.isBlankLine f.text.toList with
  | true =>
    have htrim : Text.trim f.text.toList = [] := by
      have hleft : Text.trimLeft f.text.toList = [] :=
        List.dropWhile_eq_nil_iff.mpr (List.all_eq_true.mp hblank)
      rw [Text.trim_eq, hleft]
      rfl
    rw [htrim]
    rfl
  | false =>
    obtain ⟨line, after, hlines, hheadline⟩ := Text.splitLines_trim hblank
    rw [hlines, if_neg (by simp), hheadline]
    have hne := (Text.single_of_headline? hheadline).1
    simp [hne]

/-- One message for each failure that says something. -/
theorem filterMap_firstLine (gs : List Failure) :
    (gs.filterMap firstLine).map some =
      (gs.filter fun f => !Text.isBlankLine f.text.toList).map
        fun f => Text.headline? f.text.toList := by
  induction gs with
  | nil => rfl
  | cons f gs ih =>
    rw [List.filterMap_cons, firstLine_eq]
    cases hblank : Text.isBlankLine f.text.toList with
    | true => simpa [hblank] using ih
    | false =>
      rw [Text.headline?_eq_some hblank]
      simpa [hblank, Text.headline?_eq_some hblank] using ih

theorem single_of_mem_messages {m : Text} (h : m ∈ messages fs) :
    m ≠ [] ∧ Text.trim m = m ∧ Text.splitLines m = [m] := by
  obtain ⟨f, -, hf⟩ := List.mem_filterMap.mp h
  rw [firstLine_eq] at hf
  split at hf
  · cases hf
  · exact Text.single_of_headline? hf

/-- The way from the failure behind the first one is the rest of the way from the first one, and the
first one itself if links lead back to it. -/
theorem tail_of_walks {f : Failure} (hf : fs[i]? = some f) (h : Walk fs [] (some i) places)
    (h' : Walk fs [] f.behind places') :
    (¬ TransGen (Leads fs) i i → places' = places.tail) ∧
      (TransGen (Leads fs) i i → places' = places.tail ++ [i]) := by
  cases hcourse : h with
  | again hi => cases hi
  | outside hi => cases hf.symm.trans hi
  | @visit _ rest _ g _ hg hrest =>
    obtain rfl := Option.some.inj (hf.symm.trans hg)
    have hi : i ∉ rest := by
      have hnodup := (trailWithin_nodup fs fs.length [] (some i)).1
      rw [← walk_iff.mp h] at hnodup
      exact (List.nodup_cons.mp hnodup).1
    have hseen : ∀ k, k ∈ [i] ↔ k = i ∨ k ∈ ([] : List Nat) := by simp
    obtain ⟨last, hlast, hwalk⟩ :=
      hrest.forget hf hseen List.not_mem_nil fun k hk => .inl hk
    obtain rfl := hwalk.unique h'
    have hback := h'.mem_iff_transGen hf (j := i)
    rcases hlast with rfl | rfl
    · have hno : ¬ TransGen (Leads fs) i i := by
        intro hloop
        apply hi
        simpa using hback.mpr hloop
      exact ⟨fun _ => List.append_nil rest, fun hloop => absurd hloop hno⟩
    · exact ⟨fun hno => absurd (hback.mp (by simp)) hno, fun _ => rfl⟩

/-- **What is told about failures.** Any failure of a graph may stand first in a list. From there
the way along the links comes to an end, and so does the way from the failure behind it, whatever
circles the links make. Each of them has one course and meets no failure twice; the first one goes
from link to link, and each meets exactly what links lead to. If the links never lead back to the
first failure, then the failures behind it are those that are met after it, in the same order; else
it is met once more, as the last one.

The messages are the headlines of the failures that are met whose text is not blank, in order. Each
is a single line that is not empty, without blanks around it. The hint is the last one. -/
theorem told_along_links (first : Failure) (others : List Failure) :
    let fs := first :: others
    ∃ met next : List Nat,
      (∀ places, Walk fs [] (some 0) places ↔ places = met) ∧
      (∀ places, Walk fs [] first.behind places ↔ places = next) ∧
      met.Nodup ∧ next.Nodup ∧
      met.head? = some 0 ∧ met.IsChain (Leads fs) ∧
      (∀ i, i ∈ met ↔ ReflTransGen (Leads fs) 0 i) ∧
      (∀ i, i ∈ next ↔ TransGen (Leads fs) 0 i) ∧
      (¬ TransGen (Leads fs) 0 0 → next = met.tail) ∧
      (TransGen (Leads fs) 0 0 → next = met.tail ++ [0]) ∧
      (messages fs).map some =
        ((met.filterMap (fs[·]?)).filter fun f => !Text.isBlankLine f.text.toList).map
          (fun f => Text.headline? f.text.toList) ∧
      (∀ m ∈ messages fs, m ≠ [] ∧ Text.trim m = m ∧ Text.splitLines m = [m]) ∧
      hint? fs = (messages fs).getLast? ∧
      chain fs = next.filterMap (fs[·]?) := by
  intro fs
  have hfirst : fs[0]? = some first := rfl
  have hmet : Walk fs [] (some 0) (trailWithin fs fs.length [] (some 0)) := walk_iff.mpr rfl
  have hnext : Walk fs [] first.behind (trailWithin fs fs.length [] first.behind) :=
    walk_iff.mpr rfl
  have hreach (i : Nat) : i ∈ trailWithin fs fs.length [] (some 0) ↔ ReflTransGen (Leads fs) 0 i :=
    hmet.mem_iff (Nat.zero_lt_succ _)
  have hhead : (trailWithin fs fs.length [] (some 0)).head? = some 0 := by
    have hne : trailWithin fs fs.length [] (some 0) ≠ [] :=
      List.ne_nil_of_mem ((hreach 0).mpr .refl)
    obtain ⟨i, rest, hcons⟩ := List.exists_cons_of_ne_nil hne
    have hi := hmet.isChain.2 i (by rw [hcons]; rfl)
    rw [hcons, List.head?_cons, hi]
  obtain ⟨hrest, hround⟩ := tail_of_walks hfirst hmet hnext
  exact ⟨_, _, fun _ => walk_iff, fun _ => walk_iff, (trailWithin_nodup fs _ [] _).1,
    (trailWithin_nodup fs _ [] _).1, hhead, hmet.isChain.1, hreach,
    fun i => hnext.mem_iff_transGen hfirst, hrest, hround, filterMap_firstLine _,
    fun m => single_of_mem_messages, rfl, rfl⟩

/-- The second failure has a blank text, and the last one is its own cause. -/
theorem told_of_failures_in_circle :
    let fs : List Failure :=
      [⟨"CleanupError", .message " \n Failed \nbadly", some 1, none⟩,
        ⟨"ValueError", .message "\t", none, some 2⟩,
        ⟨"OSError", .message "disk full", some 2, some 0⟩]
    (∀ places, Walk fs [] (some 0) places ↔ places = [0, 1, 2]) ∧
      messages fs = ["Failed".toList, "disk full".toList] ∧
      (∀ m ∈ messages fs, Text.splitLines m = [m]) ∧
      ¬ TransGen (Leads fs) 0 0 ∧ chain fs = fs.tail := by
  intro fs
  have hno : ¬ TransGen (Leads fs) 0 0 := by
    intro hback
    obtain ⟨i, -, f, hf, hnext, -⟩ := TransGen.tail'_iff.mp hback
    have hnone : ∀ f ∈ fs, f.behind ≠ some 0 := by decide
    exact hnone f (List.mem_of_getElem? hf) hnext
  obtain ⟨met, next, hmet, -, -, -, -, -, -, -, htail, -, -, hsingle, -, hchain⟩ :=
    told_along_links ⟨"CleanupError", .message " \n Failed \nbadly", some 1, none⟩
      [⟨"ValueError", .message "\t", none, some 2⟩,
        ⟨"OSError", .message "disk full", some 2, some 0⟩]
  have hcourse : Walk fs [] (some 0) [0, 1, 2] :=
    .visit (by decide) rfl (.visit (by decide) rfl (.visit (by decide) rfl (.again (by decide))))
  obtain rfl := (hmet _).mp hcourse
  refine ⟨hmet, by decide +kernel, fun m hm => (hsingle m hm).2.2, hno, ?_⟩
  rw [hchain, htail hno]
  rfl

end Typeset.Failure
