import Typeset.Proofs.Log.Item
import Typeset.Proofs.Log.Repeats
import Typeset.Proofs.Path.Written

/-!
# Logs read back

A log is written from a banner and a list of items, with an empty line in front of each and behind
the last. Reading it gives the items back, in order, except that neighbours with the same first
source line and the same text become one.

## Main definitions

* `Log.written`: the log that is written from a banner and items

## Main results

* `Log.logLines_written`: the lines of a written log
* `Log.found_items`: each item is found as a diagnostic
* `Log.read_written`: a written log is read back
-/

namespace Typeset

namespace Text

/-- Each line but the last loses a carriage return at its end, so all do if the last has none. -/
theorem dropReturns_eq_map {ts : List Text} (h : ∀ t ∈ ts.getLast?, dropReturn t = t) :
    dropReturns ts = ts.map dropReturn := by
  match ts with
  | [] => rfl
  | [t] => rw [dropReturns, List.map_singleton, h t rfl]
  | t :: t' :: ts =>
    have hrest : dropReturns (t' :: ts) = (t' :: ts).map dropReturn :=
      dropReturns_eq_map fun l hl => h l (by rwa [List.getLast?_cons_cons])
    rw [dropReturns, hrest, List.map_cons, List.map_cons, List.map_cons]
    exact List.cons_ne_nil t' ts

end Text

namespace Log

open Text

/-! ## Written logs -/

/-- The lines of items, with an empty line behind those of each. -/
def itemLines (items : List Item) : List Text := items.flatMap fun it => it.lines ++ [[]]

/-- The log that is written from a banner and items. -/
def written (banner : Text) (items : List Item) : Text :=
  joinWith ['\n'] (banner :: [] :: itemLines items)

variable {banner : Text} {items : List Item}

theorem getLast?_itemLines (items : List Item) : ∀ t ∈ (itemLines items).getLast?, t = [] := by
  rcases List.eq_nil_or_concat items with rfl | ⟨init, it, rfl⟩
  · rintro _ ⟨⟩
  · simp [itemLines]

/-- The lines of a written log: those that were written, without carriage returns at their ends. -/
theorem logLines_written (hbanner : '\n' ∉ banner) (hitems : ∀ it ∈ items, it.WellFormed) :
    logLines (written banner items) = (banner :: [] :: itemLines items).map dropReturn := by
  have hfeed : ∀ line ∈ banner :: [] :: itemLines items, '\n' ∉ line := by
    intro line hline
    simp only [itemLines, List.mem_cons, List.mem_flatMap, List.mem_append, List.not_mem_nil,
      or_false] at hline
    rcases hline with rfl | rfl | ⟨it, hit, hline | rfl⟩
    · exact hbanner
    · exact List.not_mem_nil
    · exact Item.not_mem_lineFeed (hitems it hit) line hline
    · exact List.not_mem_nil
  rw [logLines, written, splitOn_joinWith (List.cons_ne_nil _ _) hfeed]
  refine dropReturns_eq_map fun t ht => ?_
  have hnil : t = [] := by
    rw [List.getLast?_cons_cons, List.getLast?_cons] at ht
    cases hlast : (itemLines items).getLast? with
    | none => simpa [hlast] using ht.symm
    | some t' =>
      obtain rfl : t' = t := by simpa [hlast] using ht
      exact getLast?_itemLines items t' hlast
  rw [hnil]
  rfl

/-! ## Reading items -/

/-- Each item is found as a diagnostic about the file that is open. No item opens a file, and the
empty line behind it ends its message. -/
theorem found_items (x : Context) (row : Nat) (hitems : ∀ it ∈ items, it.WellFormed) :
    (found (segments x row ((itemLines items).map dropReturn))).map Diagnostic.summary =
      items.map (Item.summary x.files.current) := by
  induction items generalizing row with
  | nil => rfl
  | cons it items ih =>
    obtain ⟨hit, hrest⟩ := List.forall_mem_cons.mp hitems
    obtain ⟨c, d, hsegs, hd, hsummary⟩ := Item.segments_lines x row hit
    have hlines : (itemLines (it :: items)).map dropReturn =
        it.lines.map dropReturn ++ [] :: (itemLines items).map dropReturn := by
      simp [itemLines, dropReturn]
    have hcut := segmentsFrom_append_blank x row ((itemLines items).map dropReturn)
      (Nat.zero_le (it.lines.map dropReturn).length)
    rw [← segments, ← segments, hsegs] at hcut
    rw [hlines, hcut]
    have hfound (segs : List Segment) (r : Nat) :
        found ([.message row c] ++ .plain r [] :: segs) = d :: found segs :=
      List.filterMap_cons_some hd
    rw [hfound, List.map_cons, List.map_cons, hsummary]
    exact congrArg _ (ih _ hrest)

/-- What a repeat repeats, in what a diagnostic says. -/
def summaryKey (s : Severity × Text × Location) : Path × Int × Text :=
  (s.2.2.path, s.2.2.span.start.row, s.2.1)

theorem summaryKey_diagnostic (d : Diagnostic) : summaryKey d.summary = repeatKey d := rfl

theorem summaryKey_item_eq_iff (root : Path) (a b : Item) :
    summaryKey (a.summary root) = summaryKey (b.summary root) ↔
      (a.first, a.excerpt) = (b.first, b.excerpt) := by
  simp only [summaryKey, Item.summary, Prod.mk.injEq, true_and]
  constructor <;> rintro ⟨hfirst, hexcerpt⟩ <;> exact ⟨by omega, hexcerpt⟩

/-- **A written log is read back.** The diagnostics of a log that is written from items are the
items, in order, with the severity, the text, the file and the source lines of each. Of neighbours
that agree in their first source line and in their text only the first one is there. -/
theorem read_written (root : Path) (hbanner : '\n' ∉ banner)
    (hitems : ∀ it ∈ items, it.WellFormed) :
    (read root (written banner items)).diagnostics.map Diagnostic.summary =
      (runHeads (fun it => (it.first, it.excerpt)) items).map (Item.summary root) := by
  have hsegs : logSegments root (written banner items) = .plain 1 [] ::
      segments ⟨root, ⟨root, []⟩⟩ 2 ((itemLines items).map dropReturn) := by
    rw [logSegments, logLines_written hbanner hitems]
    exact segments_cons_plain _ _ _ rfl
  have hfound : (found (logSegments root (written banner items))).map Diagnostic.summary =
      items.map (Item.summary root) := by
    rw [hsegs]
    exact found_items ⟨root, ⟨root, []⟩⟩ 2 hitems
  calc (read root (written banner items)).diagnostics.map Diagnostic.summary
      = (dropRepeats repeatKey none (found (logSegments root (written banner items)))).map
          Diagnostic.summary := rfl
    _ = dropRepeats summaryKey none
          ((found (logSegments root (written banner items))).map Diagnostic.summary) :=
        (dropRepeats_map summaryKey_diagnostic none _).symm
    _ = dropRepeats summaryKey none (items.map (Item.summary root)) := by rw [hfound]
    _ = (dropRepeats (fun it => summaryKey (it.summary root)) none items).map
          (Item.summary root) := dropRepeats_map (fun _ => rfl) none items
    _ = (runHeads (fun it => (it.first, it.excerpt)) items).map (Item.summary root) := by
        rw [dropRepeats_none, runHeads_congr (summaryKey_item_eq_iff root)]

/-- Three kinds of item, of which neighbours that agree become one even if their kinds differ. -/
theorem read_written_notes :
    let root := Path.ofString "/doc/main.tex"
    let banner := "This is a log".toList
    let items := [
      Item.box "Overfull".toList 'h' "12.0pt too wide".toList 10 12,
      Item.warning "Citation a undefined".toList 3,
      Item.fatal "Citation a undefined".toList 3 "\\cite a".toList,
      Item.fatal "Undefined control sequence".toList 1 "\\foo".toList]
    ('\n' ∉ banner ∧ ∀ it ∈ items, it.WellFormed) ∧
      (read root (written banner items)).diagnostics.map Diagnostic.summary =
        [(.info, "Overfull \\hbox (12.0pt too wide)".toList,
            ⟨"main.tex".toList, root, ⟨9, 0⟩, ⟨11, restOfLine⟩⟩),
          (.warning, "Citation a undefined".toList,
            ⟨"main.tex".toList, root, ⟨2, 0⟩, ⟨2, restOfLine⟩⟩),
          (.error, "Undefined control sequence".toList,
            ⟨"main.tex".toList, root, ⟨0, 0⟩, ⟨0, restOfLine⟩⟩)] := by
  intro root banner items
  have hbanner : '\n' ∉ banner := by decide
  have hitems : ∀ it ∈ items, it.WellFormed := by decide +kernel
  exact ⟨⟨hbanner, hitems⟩, (read_written root hbanner hitems).trans (by decide +kernel)⟩

end Log

end Typeset
