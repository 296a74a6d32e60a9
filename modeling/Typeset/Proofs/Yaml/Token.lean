import Typeset.Proofs.Yaml.Reading

/-!
# Misfits where tokens are found

While the tokens of a text are found, a misfit only comes from reading a scalar, a label or a
directive. Each token that is found is no fault, and moves on in the text. Between tokens only the
places where keys may begin are remembered and dropped, which breaks a rule or leaves the rest of
the reading as it is.

## Main definitions

* `Yaml.Lexer.Intact`: a reading without a fault so far
* `Yaml.Lexer.Remembers`: a step that only concerns the places where keys may begin

## Main results

* `Yaml.Lexer.yields_step`: one more token
* `Yaml.exceeds_of_fault`: a misfit among the tokens of a text can be pointed out in it
-/

namespace Typeset.Yaml

variable {t : Text} {s : Source} {m : Misfit}

/-- Whether the text could not be read any further. -/
def Token.isFault : Token → Bool
  | fault _ => true
  | _ => false

namespace Lexer

variable {l : Lexer} {x : Except Problem Lexer} {c : Char}

/-- So far no token is a fault, and what is left to be read is the end of the text. -/
structure Intact (l : Lexer) (t : Text) : Prop where
  source : l.source.Within t
  tokens : ∀ a ∈ l.tokens, a.token.isFault = false

/-- The reading goes on without a fault. -/
abbrev GoesOn (t : Text) (x : Except Problem Lexer) : Prop :=
  Yields (Exceeds t) (fun l => l.Intact t) x

theorem isFault_concat {ts : List Lexeme} {k : Token} (hts : ∀ a ∈ ts, a.token.isFault = false)
    (hk : k.isFault = false) (mark : Mark) :
    ∀ a ∈ ts ++ [⟨k, mark⟩], a.token.isFault = false := by
  intro a ha
  rcases List.mem_append.mp ha with ha | ha
  · exact hts a ha
  · rw [List.mem_singleton.mp ha]
    exact hk

/-- Other places where keys may begin are remembered, and nothing else is done. -/
abbrev Remembers (l : Lexer) (x : Except Problem Lexer) : Prop :=
  Yields (fun _ => False) (fun l' => l'.source = l.source ∧ l'.tokens = l.tokens) x

namespace Intact

theorem ne_fault {a : Lexeme} {p : Problem} (hl : l.Intact t) (ha : a ∈ l.tokens) :
    a.token ≠ .fault p := by
  intro h
  have := hl.tokens a ha
  rw [h] at this
  cases this

theorem of_eq {l' : Lexer} (hl : l.Intact t) (hsource : l'.source = l.source)
    (htokens : l'.tokens = l.tokens) : l'.Intact t :=
  ⟨hsource ▸ hl.source, htokens ▸ hl.tokens⟩

theorem remembers (hl : l.Intact t) (hx : l.Remembers x) : GoesOn t x :=
  hx.mono nofun fun _ h => hl.of_eq h.1 h.2

theorem goTo (hl : l.Intact t) (hs : s.Within t) : (l.goTo s).Intact t := ⟨hs, hl.tokens⟩

theorem skip (hl : l.Intact t) (n : Nat) : (l.skip n).Intact t := hl.goTo (hl.source.advance n)

theorem emit {k : Token} (hl : l.Intact t) (hk : k.isFault = false) : (l.emit k).Intact t :=
  ⟨hl.source, isFault_concat hl.tokens hk l.source.mark⟩

theorem emitAt {k : Token} (hl : l.Intact t) (place : KeyPlace) (hk : k.isFault = false) :
    (l.emitAt place k).Intact t := by
  refine ⟨hl.source, ?_⟩
  intro a ha
  rcases List.mem_append.mp ha with ha | ha
  · exact hl.tokens a (List.mem_of_mem_take ha)
  rcases List.mem_cons.mp ha with rfl | ha
  · exact hk
  · exact hl.tokens a (List.mem_of_mem_drop ha)

theorem skipGapWithin (fuel : Nat) (hl : l.Intact t) : (l.skipGapWithin fuel).Intact t := by
  induction fuel generalizing l with
  | zero => exact hl
  | succ fuel ih =>
    have hs := hl.source.skipSpaces.skipComment
    unfold Lexer.skipGapWithin
    dsimp only
    split
    · exact ih ⟨hs.lineBreak, hl.tokens⟩
    · exact hl.goTo hs

theorem skipGap (hl : l.Intact t) : l.skipGap.Intact t := by
  unfold Lexer.skipGap
  dsimp only
  split
  · exact (hl.goTo hl.source.next).skipGapWithin _
  · exact (hl.goTo hl.source).skipGapWithin _

theorem close (hsource : l.source.Within t) (column : Int) (indent : Int) (outer : List Int)
    {ts : List Lexeme} (hts : ∀ a ∈ ts, a.token.isFault = false) :
    (Lexer.closeBlocks.close column l indent outer ts).Intact t := by
  induction outer generalizing indent ts with
  | nil => exact ⟨hsource, hts⟩
  | cons o outer ih =>
    unfold Lexer.closeBlocks.close
    split
    · exact ih o (isFault_concat hts rfl l.source.mark)
    · exact ⟨hsource, hts⟩

theorem closeBlocks (hl : l.Intact t) (column : Int) : (l.closeBlocks column).Intact t := by
  unfold Lexer.closeBlocks
  split
  · exact hl
  · exact close hl.source column l.indent l.outer hl.tokens

theorem openBlock (hl : l.Intact t) (column : Nat) : (l.openBlock column).1.Intact t := by
  unfold Lexer.openBlock
  split
  · exact hl.of_eq rfl rfl
  · exact hl

theorem openHere {k : Token} (hl : l.Intact t) (hk : k.isFault = false) :
    (l.openHere k).Intact t := by
  have hopen := hl.openBlock l.source.column
  unfold Lexer.openHere
  split
  · next h =>
    rw [h] at hopen
    exact hopen.emit hk
  · next h =>
    rw [h] at hopen
    exact hopen

/-- Outside of flow collections a block may be opened. -/
theorem openOutside {k : Token} (hl : l.Intact t) (hk : k.isFault = false) :
    (if l.inFlow then l else l.openHere k).Intact t := by
  split
  · exact hl
  · exact hl.openHere hk

end Intact

theorem close_source (column indent : Int) (outer : List Int) (ts : List Lexeme) :
    (closeBlocks.close column l indent outer ts).source = l.source := by
  induction outer generalizing indent ts with
  | nil => rfl
  | cons o outer ih =>
    unfold closeBlocks.close
    split
    · exact ih o _
    · rfl

theorem closeBlocks_source (column : Int) (l : Lexer) :
    (l.closeBlocks column).source = l.source := by
  unfold closeBlocks
  split
  · rfl
  · exact close_source column l.indent l.outer l.tokens

theorem remembers_dropStaleKeys (l : Lexer) : l.Remembers l.dropStaleKeys := by
  unfold dropStaleKeys
  dsimp only
  split
  · exact trivial
  · exact ⟨rfl, rfl⟩

theorem remembers_dropKey (l : Lexer) : l.Remembers l.dropKey := by
  unfold dropKey
  split
  · split
    · exact trivial
    · exact ⟨rfl, rfl⟩
  · exact ⟨rfl, rfl⟩

theorem remembers_markKey (l : Lexer) : l.Remembers l.markKey := by
  unfold markKey
  split
  · exact l.remembers_dropKey.bind fun _ h => .pure h
  · exact ⟨rfl, rfl⟩

/-! ## One more token -/

theorem yields_between (hl : l.Intact t) :
    Yields (Exceeds t) (fun l' => l'.Intact t ∧ l'.source = l.source) l.between := by
  have hdrop := remembers_dropKey (l.closeBlocks (-1))
  refine Yields.bind (hdrop.mono nofun fun _ h => h) fun l' hl' => .pure ⟨?_, ?_⟩
  · exact (hl.closeBlocks (-1)).of_eq hl'.1 hl'.2
  · exact hl'.1.trans (closeBlocks_source (-1) l)

theorem goesOn_separator {k : Token} (hl : l.Intact t) (hk : k.isFault = false) :
    GoesOn t (l.separator k) :=
  (yields_between hl).bind fun _ hl => .pure ((hl.1.emit hk).skip 3)

theorem goesOn_directive (hl : l.Intact t) (hpercent : l.source.peek = some '%') :
    GoesOn t (do
      let l ← l.between
      let (d, s) ← Directive.read l.source
      return (l.emit (.directive d)).goTo s) := by
  refine (yields_between hl).bind fun l' hl' => ?_
  have hread := Directive.reads_read hl'.1.source (hl'.2 ▸ hpercent)
  refine hread.bind fun d s hs => .pure ?_
  exact (hl'.1.emit rfl).goTo hs

/-- A mark of one character, after which it may be another matter where keys begin. -/
theorem goesOn_mark {k : Token} {f : Lexer → Lexer} (hl : l.Intact t) (hx : l.Remembers x)
    (hf : ∀ l, (f l).source = l.source ∧ (f l).tokens = l.tokens) (hk : k.isFault = false) :
    GoesOn t (do
      let l ← x
      return ((f l).emit k).skip 1) := by
  refine (hl.remembers hx).bind fun l hl => .pure ?_
  have hmark : (f l).Intact t := hl.of_eq (hf l).1 (hf l).2
  exact (hmark.emit hk).skip 1

theorem goesOn_openFlow {k : Token} (hl : l.Intact t) (hk : k.isFault = false) :
    GoesOn t (l.openFlow k) :=
  goesOn_mark hl l.remembers_markKey (fun _ => ⟨rfl, rfl⟩) hk

theorem goesOn_closeFlow {k : Token} (hl : l.Intact t) (hk : k.isFault = false) :
    GoesOn t (l.closeFlow k) :=
  goesOn_mark hl l.remembers_dropKey (fun _ => ⟨rfl, rfl⟩) hk

theorem goesOn_flowEntry (hl : l.Intact t) : GoesOn t l.flowEntry :=
  goesOn_mark hl l.remembers_dropKey (fun _ => ⟨rfl, rfl⟩) rfl

theorem goesOn_blockEntry (hl : l.Intact t) : GoesOn t l.blockEntry := by
  have hopen := hl.openOutside (k := .blockSequenceStart) rfl
  unfold blockEntry
  dsimp only
  split
  · exact trivial
  · exact goesOn_mark hopen (remembers_dropKey _) (fun _ => ⟨rfl, rfl⟩) rfl

theorem goesOn_explicitKey (hl : l.Intact t) : GoesOn t l.explicitKey := by
  have hopen := hl.openOutside (k := .blockMappingStart) rfl
  unfold explicitKey
  dsimp only
  split
  · exact trivial
  · exact goesOn_mark hopen (remembers_dropKey _) (fun _ => ⟨rfl, rfl⟩) rfl

/-- The key began earlier, so its mark and perhaps that of its mapping are put in there. -/
theorem goesOn_mappingValue (hl : l.Intact t) : GoesOn t l.mappingValue := by
  unfold mappingValue
  split
  · next k _ =>
    have hkeys : { l with
        keys := l.keys.filter (·.1 ≠ l.flow)
        keyAllowed := false }.Intact t := hl.of_eq rfl rfl
    have hkey := hkeys.emitAt (k := .key) k rfl
    dsimp only
    generalize Lexer.emitAt _ k .key = l at hkey ⊢
    have hopen : (if l.inFlow then (l, false) else l.openBlock k.mark.column).1.Intact t := by
      split
      · exact hkey
      · exact hkey.openBlock _
    generalize (if l.inFlow then (l, false) else l.openBlock k.mark.column) = r at hopen ⊢
    have hstart : (if r.2 then r.1.emitAt k .blockMappingStart else r.1).Intact t := by
      split
      · exact hopen.emitAt k rfl
      · exact hopen
    exact (hstart.emit rfl).skip 1
  · dsimp only
    split
    · exact trivial
    have hopen := hl.openOutside (k := .blockMappingStart) rfl
    generalize (if l.inFlow then l else l.openHere .blockMappingStart) = l at hopen ⊢
    have hkey : { l with keyAllowed := !l.inFlow }.Intact t := hopen.of_eq rfl rfl
    exact goesOn_mark hkey (remembers_dropKey _) (fun _ => ⟨rfl, rfl⟩) rfl

theorem goesOn_mayBeKey {read : Source → Except Problem (Token × Source)} (hl : l.Intact t)
    (hread : ∀ s, s.Within t →
      Yields (Exceeds t) (fun r => r.1.isFault = false ∧ r.2.Within t) (read s)) :
    GoesOn t (l.mayBeKey read) := by
  refine (hl.remembers l.remembers_markKey).bind fun l hl => ?_
  refine (hread l.source hl.source).bind fun r hr => .pure ?_
  have hkey : { l with keyAllowed := false }.Intact t := hl.of_eq rfl rfl
  exact (hkey.emit hr.1).goTo hr.2

theorem goesOn_blockScalar (hl : l.Intact t) : GoesOn t l.blockScalar := by
  have hkey : { l with keyAllowed := true }.Intact t := hl.of_eq rfl rfl
  refine (hkey.remembers (remembers_dropKey _)).bind fun l hl => ?_
  refine (Block.reads_read l.indent hl.source).bind fun u s hs => .pure ?_
  exact (hl.emit rfl).goTo hs

theorem goesOn_plainScalar (hl : l.Intact t) : GoesOn t l.plainScalar := by
  refine (hl.remembers l.remembers_markKey).bind fun l hl => .pure ?_
  have hs := Plain.within_read l.inFlow (l.indent + 1).toNat hl.source
  have hkey (b : Bool) : { l with keyAllowed := b }.Intact t := hl.of_eq rfl rfl
  exact ((hkey _).emit rfl).goTo hs

theorem goesOn_finish (hl : l.Intact t) : GoesOn t l.finish := by
  refine ((hl.closeBlocks (-1)).remembers (remembers_dropKey _)).bind fun l hl => .pure ?_
  exact hl.emit rfl

/-- There is a case for each of the characters that a token may begin with. -/
theorem goesOn_readToken (hl : l.Intact t) (hc : l.source.peek = some c) :
    GoesOn t (l.readToken c) := by
  refine .ite (fun h => ?_) fun _ => ?_
  · rw [Bool.and_eq_true, decide_eq_true_eq] at h
    exact goesOn_directive hl (h.1 ▸ hc)
  refine .ite (fun _ => goesOn_separator hl rfl) fun _ => ?_
  refine .ite (fun _ => goesOn_separator hl rfl) fun _ => ?_
  refine .ite (fun _ => goesOn_openFlow hl rfl) fun _ => ?_
  refine .ite (fun _ => goesOn_openFlow hl rfl) fun _ => ?_
  refine .ite (fun _ => goesOn_closeFlow hl rfl) fun _ => ?_
  refine .ite (fun _ => goesOn_closeFlow hl rfl) fun _ => ?_
  refine .ite (fun _ => goesOn_flowEntry hl) fun _ => ?_
  refine .ite (fun _ => goesOn_blockEntry hl) fun _ => ?_
  refine .ite (fun _ => goesOn_explicitKey hl) fun _ => ?_
  refine .ite (fun _ => goesOn_mappingValue hl) fun _ => ?_
  refine .ite (fun _ => goesOn_mayBeKey hl fun s hs => ?_) fun _ => ?_
  · exact (Label.reads_name _ hs).map fun _ hs => ⟨rfl, hs⟩
  refine .ite (fun _ => goesOn_mayBeKey hl fun s hs => ?_) fun _ => ?_
  · exact (Label.reads_name _ hs).map fun _ hs => ⟨rfl, hs⟩
  refine .ite (fun _ => goesOn_mayBeKey hl fun s hs => ?_) fun _ => ?_
  · exact (Label.reads_tag hs).map fun _ hs => ⟨rfl, hs⟩
  refine .ite (fun _ => goesOn_blockScalar hl) fun _ => ?_
  refine .ite (fun _ => goesOn_mayBeKey hl fun s hs => ?_) fun _ => ?_
  · exact (Quoted.reads_read hs).map fun _ hs => ⟨rfl, hs⟩
  exact .ite (fun _ => goesOn_plainScalar hl) fun _ => trivial

theorem yields_step (hl : l.Intact t) :
    Yields (Exceeds t) (fun r => r.1.Intact t) l.step := by
  refine (hl.skipGap.remembers (remembers_dropStaleKeys _)).bind fun l hl => ?_
  have hclosed := hl.closeBlocks l.source.column
  dsimp only
  split
  · exact (goesOn_finish hclosed).bind fun _ hl => .pure hl
  · next c hc =>
    refine (goesOn_readToken hclosed hc).bind fun l hl => ?_
    exact (hl.remembers l.remembers_dropStaleKeys).bind fun _ hl => .pure hl

/-- Up to the step that fails there is no fault among the tokens. -/
theorem exceeds_of_runWithin (fuel : Nat) (hl : l.Intact t) {a : Lexeme}
    (ha : a ∈ l.runWithin fuel) (hm : a.token = .fault (.misfit m)) : Exceeds t m := by
  induction fuel generalizing l with
  | zero => exact absurd hm (hl.ne_fault ha)
  | succ fuel ih =>
    have hstep := yields_step hl
    unfold runWithin at ha
    split at ha
    · next p hp =>
      rw [hp] at hstep
      rcases List.mem_append.mp ha with ha | ha
      · exact absurd hm (hl.ne_fault (List.mem_of_mem_take ha))
      · rw [List.mem_singleton.mp ha] at hm
        cases hm
        exact hstep
    · next hnext =>
      rw [hnext] at hstep
      exact ih hstep ha
    · next hlast =>
      rw [hlast] at hstep
      exact absurd hm (hstep.ne_fault ha)

end Lexer

/-- A misfit among the tokens of a text is a code point or a number that goes too far. -/
theorem exceeds_of_fault {a : Lexeme} (ha : a ∈ tokens t) (hm : a.token = .fault (.misfit m)) :
    Exceeds t m := by
  unfold tokens at ha
  split at ha
  · rw [List.mem_singleton.mp ha] at hm
    cases hm
  · have hstart : Lexer.Intact { source := { rest := t } } t := ⟨List.suffix_refl t, nofun⟩
    exact Lexer.exceeds_of_runWithin _ hstart ha hm

end Typeset.Yaml
