import DeclSplit.Proofs.Attempts
import DeclSplit.Yaml.Token.Block
import DeclSplit.Yaml.Token.Plain
import DeclSplit.Yaml.Token.Quoted

/-!
# Faults of the characters of a text

A token cannot be read because the text is not well formed there, or because a number in it is too large.

* `Yaml.Fault.IsLexical` — the faults of the characters of a text, each with what is wrong in the text;
* `Yaml.Source.IsIn` — a place in a text, which no reader leaves;
* `Yaml.lexes_tag`, `Yaml.lexes_directive`, `Yaml.lexes_quotedScalar`, `Yaml.lexes_blockScalar` — a reader
  goes on to a later place, or it meets such a fault.
-/

namespace DeclSplit.Yaml

/-- The faults of the characters of a text. -/
inductive Fault.IsLexical (text : List Char) : Fault → Prop
  /-- The text is not well formed. -/
  | malformed : IsLexical text .malformed
  /-- The text is over too early. -/
  | unfinished : IsLexical text .unfinished
  /-- There is an escape with digits for a number that is no number of a character. -/
  | noSuchCharacter {mark : Char} {digits : List Char} {n : Nat}
      (hescape : '\\' :: mark :: digits <:+: text) (hwidth : escapeWidth? mark = some digits.length)
      (hnumber : Text.hexNumber? digits = some n) (hn : 0x110000 ≤ n) :
      IsLexical text (.noSuchCharacter (Nat.pow 2 31 ≤ n))
  /-- There is a number with too many digits. -/
  | tooManyDigits {digits : List Char} (hdigits : digits <:+: text)
      (hall : ∀ c ∈ digits, c.isDigit = true) (hlength : 4300 < digits.length) :
      IsLexical text (.tooManyDigits digits.length)

/-! ### Places in a text -/

namespace Source

/-- A place in a text: what is left there is an end of the text. -/
def IsIn (text : List Char) (s : Source) : Prop :=
  s.rest <:+ text

variable {text : List Char} {s : Source}

theorem rest_next (s : Source) : s.next.rest = s.rest.tail := by
  rw [next]
  split
  next h => rw [h, List.tail_nil]
  next h => rw [h, List.tail_cons]; split <;> rfl

namespace IsIn

theorem next (h : s.IsIn text) : s.next.IsIn text := by
  rw [IsIn, rest_next]
  exact (List.tail_suffix _).trans h

theorem skip (h : s.IsIn text) (n : Nat) : (s.skip n).IsIn text := by
  induction n generalizing s with
  | zero => exact h
  | succ n ih => exact ih h.next

theorem span (h : s.IsIn text) (inClass : Char → Bool) : (s.span inClass).2.IsIn text :=
  h.skip _

theorem skipWhile (h : s.IsIn text) (inClass : Char → Bool) : (s.skipWhile inClass).IsIn text :=
  h.span inClass

theorem lineBreak? (h : s.IsIn text) {c : Char} {s' : Source} (hbreak : s.lineBreak? = some (c, s')) :
    s'.IsIn text := by
  rw [Source.lineBreak?.eq_def] at hbreak
  split at hbreak
  next =>
    obtain ⟨-, rfl⟩ := Prod.mk.inj (Option.some.inj hbreak)
    exact h.skip 2
  next =>
    split at hbreak
    next =>
      obtain ⟨-, rfl⟩ := Prod.mk.inj (Option.some.inj hbreak)
      exact h.next
    split at hbreak
    next =>
      obtain ⟨-, rfl⟩ := Prod.mk.inj (Option.some.inj hbreak)
      exact h.next
    next => exact nomatch hbreak
  next => exact nomatch hbreak

theorem skipBreak (h : s.IsIn text) : s.skipBreak.IsIn text := by
  rw [Source.skipBreak]
  split
  next hbreak => exact h.lineBreak? hbreak
  next => exact h

theorem skipComment (h : s.IsIn text) : s.skipComment.IsIn text := by
  rw [Source.skipComment]
  split
  next => exact (h.skipWhile _).skipWhile _
  next => exact h.skipWhile _

end IsIn

end Source

/-! ### Readers -/

/-- A reader that goes on to a later place in the text, or meets a fault of its characters. -/
abbrev Lexes {α : Type} (text : List Char) (x : Except Fault (α × Source)) : Prop :=
  Ensures (Fault.IsLexical text) (fun r => r.2.IsIn text) x

variable {α : Type} {text : List Char} {s : Source}

theorem ensures_malformed {Q : α → Prop} : Ensures (Fault.IsLexical text) Q malformed :=
  Fault.IsLexical.malformed

theorem ensures_malformedAt {Q : α → Prop} (s : Source) :
    Ensures (Fault.IsLexical text) Q (malformedAt s) := by
  show Fault.IsLexical text (if s.rest.isEmpty then .unfinished else .malformed)
  split
  next => exact .unfinished
  next => exact .malformed

/-! ### Anchors, tags and directives -/

theorem lexes_anchorName (h : s.IsIn text) : Lexes text (anchorName s) :=
  Ensures.ite (ensures_malformedAt _) (h.next.span isNameChar)

/-- A number that is read is that of as many digits as are due. -/
theorem hexNumber_ensures (text : List Char) (count : Nat) (cs : List Char) :
    Ensures (Fault.IsLexical text)
      (fun n => Text.hexNumber? (cs.take count) = some n ∧ (cs.take count).length = count)
      (hexNumber count cs) := by
  have hle : (cs.take count).length ≤ count := List.length_take_le count cs
  rw [hexNumber]
  split
  next n hn =>
    split
    next => exact .unfinished
    next hlength => exact ⟨hn, by omega⟩
  next => exact ensures_malformed

theorem lexes_uriEscapes (steps : Nat) (h : s.IsIn text) : Lexes text (uriEscapes steps s) := by
  induction steps generalizing s with
  | zero => exact h
  | succ steps ih =>
    rw [uriEscapes]
    split
    next digits hrest =>
      have hnumber := hexNumber_ensures text 2 digits
      split
      next => exact (ih (h.skip 3)).bind fun _ hr => hr
      next f hfault => rwa [hfault] at hnumber
    next => exact h

theorem lexes_uriChars (steps : Nat) (h : s.IsIn text) : Lexes text (uriChars steps s) := by
  induction steps generalizing s with
  | zero => exact h
  | succ steps ih =>
    rw [uriChars]
    split
    next =>
      refine (lexes_uriEscapes _ h).bind fun r hr => ?_
      dsimp only
      split
      next => exact ensures_malformedAt _
      next => exact (ih hr).bind fun _ hr => hr
    next => exact Ensures.ite ((ih h.next).bind fun _ hr => hr) h
    next => exact h

theorem lexes_uri (h : s.IsIn text) : Lexes text (uri s) :=
  (lexes_uriChars _ h).bind fun _ hr => Ensures.ite (ensures_malformedAt _) hr

theorem lexes_tagHandle (h : s.IsIn text) : Lexes text (tagHandle s) := by
  rw [tagHandle]
  split
  next => exact h.next
  next => exact Ensures.ite (h.next.span isNameChar).next (ensures_malformedAt _)
  next => exact ensures_malformedAt _

theorem lexes_tag (h : s.IsIn text) : Lexes text (tag s) := by
  rw [tag]
  refine Ensures.bind (Q := fun r => r.2.IsIn text) ?_ fun _ hr => Ensures.ite hr (ensures_malformedAt _)
  split
  next =>
    exact (lexes_uri (h.skip 2)).bind fun _ hr => Ensures.ite hr.next (ensures_malformedAt _)
  next =>
    refine Ensures.ite h.next (Ensures.ite ?_ ?_)
    · exact (lexes_tagHandle h).bind fun _ hr => (lexes_uri hr).bind fun _ hr => hr
    · exact (lexes_uri h.next).bind fun _ hr => hr

theorem lexes_directiveNumber (h : s.IsIn text) : Lexes text (directiveNumber s) := by
  have hdigits : (s.span Char.isDigit).1 <:+: text :=
    (List.takeWhile_prefix _).isInfix.trans h.isInfix
  refine Ensures.ite (ensures_malformedAt _) ?_
  split
  next hlength =>
    exact .tooManyDigits hdigits (fun c hc => List.all_eq_true.1 List.all_takeWhile c hc) hlength
  next => exact h.span Char.isDigit

theorem lexes_versionDirective (h : s.IsIn text) : Lexes text (versionDirective s) :=
  (lexes_directiveNumber (h.skipWhile _)).bind fun _ hr => (ensures_malformedAt _).guarded <|
    (lexes_directiveNumber hr.next).bind fun _ hr => Ensures.ite hr ensures_malformed

theorem lexes_tagHandleDirective (h : s.IsIn text) : Lexes text (tagHandleDirective s) :=
  (lexes_tagHandle (h.skipWhile _)).bind fun _ hr => (ensures_malformedAt _).guarded <|
    (lexes_uri (hr.skipWhile _)).bind fun _ hr => Ensures.ite hr ensures_malformed

theorem lexes_directive (h : s.IsIn text) : Lexes text (directive s) := by
  have hname := h.next.span isNameChar
  refine (ensures_malformedAt _).guarded
    (Ensures.bind (Q := fun r => r.2.IsIn text) ?_ fun _ hr => ?_)
  · exact Ensures.ite (lexes_versionDirective hname)
      (Ensures.ite (lexes_tagHandleDirective hname) (hname.skipWhile _))
  · exact Ensures.ite hr.skipComment.skipBreak ensures_malformed

/-! ### Quoted scalars -/

theorem lexes_quotedBreaks (steps : Nat) (h : s.IsIn text) : Lexes text (quotedBreaks steps s) := by
  induction steps generalizing s with
  | zero => exact h
  | succ steps ih =>
    rw [quotedBreaks]
    refine Ensures.ite ensures_malformed ?_
    dsimp only
    split
    next hbreak => exact (ih ((h.skipWhile isBlank).lineBreak? hbreak)).bind fun _ hr => hr
    next => exact h.skipWhile isBlank

theorem lexes_quotedSpaces (h : s.IsIn text) : Lexes text (quotedSpaces s) := by
  rw [quotedSpaces]
  dsimp only
  split
  next hbreak =>
    exact (lexes_quotedBreaks _ ((h.span isBlank).lineBreak? hbreak)).bind fun _ hr => hr
  next => exact Ensures.ite (ensures_malformedAt _) (h.span isBlank)

/-- The number of an escape is that of the digits after its mark. -/
theorem lexes_escapedNumber {mark : Char} {width : Nat} (hwidth : escapeWidth? mark = some width)
    (hescape : '\\' :: mark :: s.rest <:+ text) : Lexes text (escapedNumber width s) := by
  have hnumber := hexNumber_ensures text width s.rest
  have hplace : s.IsIn text := (List.suffix_append ['\\', mark] s.rest).trans hescape
  rw [escapedNumber]
  split
  next f hfault => rwa [hfault] at hnumber
  next n hn =>
    rw [hn] at hnumber
    obtain ⟨hdigits, hlength⟩ := hnumber
    have hinfix : '\\' :: mark :: s.rest.take width <:+: text := by
      refine List.IsInfix.trans (List.IsPrefix.isInfix ?_) hescape.isInfix
      exact List.cons_prefix_cons.2 ⟨rfl, List.cons_prefix_cons.2 ⟨rfl, List.take_prefix ..⟩⟩
    have hfault (huge : Bool) (hhuge : decide (Nat.pow 2 31 ≤ n) = huge) (hlarge : 0x110000 ≤ n) :
        Fault.IsLexical text (.noSuchCharacter huge) :=
      hhuge ▸ .noSuchCharacter hinfix (by rw [hwidth, hlength]) hdigits hlarge
    split
    next hhuge => exact hfault true (decide_eq_true hhuge) (Nat.le_trans (by decide) hhuge)
    split
    next hsmall hlarge => exact hfault false (decide_eq_false hsmall) hlarge
    next => exact hplace.skip width

theorem lexes_quotedEscape (hescape : '\\' :: s.rest <:+ text) : Lexes text (quotedEscape s) := by
  have h : s.IsIn text := (List.suffix_cons '\\' s.rest).trans hescape
  rw [quotedEscape]
  split
  next => exact ensures_malformedAt s
  next c hc =>
    split
    next => exact h.next
    next hwidth =>
      refine lexes_escapedNumber hwidth ?_
      obtain ⟨rest, hrest⟩ := List.head?_eq_some_iff.1 hc
      rwa [Source.rest_next, hrest, List.tail_cons, ← hrest]
    next => exact Ensures.ite (lexes_quotedBreaks _ h.skipBreak) ensures_malformed

theorem lexes_quotedRun (mark : Char) (steps : Nat) (h : s.IsIn text) :
    Lexes text (quotedRun mark steps s) := by
  induction steps generalizing s with
  | zero => exact h
  | succ steps ih =>
    rw [quotedRun]
    split
    next => exact h
    next c rest hrest =>
      refine Ensures.ite ((ih h.next).bind fun _ hr => hr) ?_
      refine Ensures.ite ((ih (h.skip 2)).bind fun _ hr => hr) ?_
      refine Ensures.ite ((ih h.next).bind fun _ hr => hr) ?_
      split
      next hbackslash =>
        obtain ⟨-, rfl⟩ : mark = '"' ∧ c = '\\' := by simpa using hbackslash
        have hescape : '\\' :: s.next.rest <:+ text := by
          rwa [Source.rest_next, hrest, List.tail_cons, ← hrest]
        exact (lexes_quotedEscape hescape).bind fun _ hr => (ih hr).bind fun _ hr => hr
      next => exact h

theorem lexes_quotedWords (mark : Char) (steps : Nat) (h : s.IsIn text) :
    Lexes text (quotedWords mark steps s) := by
  induction steps generalizing s with
  | zero => exact ensures_malformedAt s
  | succ steps ih =>
    refine Ensures.ite h.next ((lexes_quotedSpaces h).bind fun _ hr => ?_)
    exact (lexes_quotedRun _ _ hr).bind fun _ hr => (ih hr).bind fun _ hr => hr

theorem lexes_quotedScalar (mark : Char) (h : s.IsIn text) : Lexes text (quotedScalar mark s) :=
  (lexes_quotedRun _ _ h.next).bind fun _ hr => (lexes_quotedWords _ _ hr).bind fun _ hr => hr

/-! ### Block scalars -/

namespace Source.IsIn

theorem leadingBreaks (h : s.IsIn text) (deepest steps : Nat) :
    (leadingBreaks deepest steps s).2.2.IsIn text := by
  induction steps generalizing s deepest with
  | zero => exact h
  | succ steps ih =>
    rw [Yaml.leadingBreaks]
    split
    next hbreak => exact ih (h.lineBreak? hbreak) deepest
    next =>
      split
      next => exact ih h.next _
      next => exact h

theorem indentTo (h : s.IsIn text) (column steps : Nat) : (indentTo column steps s).IsIn text := by
  induction steps generalizing s with
  | zero => exact h
  | succ steps ih =>
    rw [Yaml.indentTo]
    split
    next => exact ih h.next
    next => exact h

theorem emptyLines (h : s.IsIn text) (column steps : Nat) :
    (emptyLines column steps s).2.IsIn text := by
  induction steps generalizing s with
  | zero => exact h
  | succ steps ih =>
    have hindent := h.indentTo column column
    rw [Yaml.emptyLines]
    dsimp only
    split
    next hbreak => exact ih (hindent.lineBreak? hbreak)
    next => exact hindent

theorem blockLines (h : s.IsIn text) (folded : Bool) (column : Nat) (before : List Char)
    (steps : Nat) : (blockLines folded column before steps s).2.2.2.IsIn text := by
  induction steps generalizing s before with
  | zero => exact h
  | succ steps ih =>
    have hline := h.span fun c => !isBreak c
    rw [Yaml.blockLines]
    dsimp only
    split
    next hbreak =>
      have hempty := (hline.lineBreak? hbreak).emptyLines column
      split
      next => exact ih (hempty _) _
      next => exact hempty _
    next =>
      have hempty := hline.emptyLines column
      split
      next => exact ih (hempty _) _
      next => exact hempty _

theorem blockSigns (h : s.IsIn text) : (blockSigns s).2.IsIn text := by
  rw [Yaml.blockSigns]
  split
  next =>
    split
    next => exact h.skip 2
    next => exact h.next
  next =>
    split
    next =>
      split
      next => exact h.skip 2
      next => exact h.next
    next => exact h

theorem blockStart (h : s.IsIn text) (least : Nat) (depth : Option Nat) :
    (blockStart least depth s).2.2.IsIn text := by
  cases depth with
  | none => exact h.leadingBreaks 0 (s.left + 1)
  | some depth => exact h.emptyLines (least + depth - 1) (s.left + 1)

theorem blockBody (h : s.IsIn text) (folded : Bool) (column : Nat) (before : List Char) :
    (blockBody folded column before s).2.2.2.IsIn text := by
  rw [Yaml.blockBody]
  split
  next => exact h.blockLines folded column before _
  next => exact h

end Source.IsIn

theorem lexes_blockHeader (h : s.IsIn text) : Lexes text (blockHeader s) :=
  ensures_malformed.guarded (Ensures.ite h.blockSigns.skipComment.skipBreak ensures_malformed)

theorem lexes_blockScalar (folded : Bool) (indent : Int) (h : s.IsIn text) :
    Lexes text (blockScalar folded indent s) :=
  (lexes_blockHeader h.next).bind fun r hr => (hr.blockStart _ r.1.2).blockBody folded _ _

/-! ### Plain scalars -/

namespace Source.IsIn

theorem plainBreaks (h : s.IsIn text) (steps : Nat) : (plainBreaks steps s).2.IsIn text := by
  induction steps generalizing s with
  | zero => exact h
  | succ steps ih =>
    rw [Yaml.plainBreaks]
    dsimp only
    split
    next => exact h.skipWhile _
    next hbreak =>
      have hline := (h.skipWhile _).lineBreak? hbreak
      split
      next => exact hline
      next => exact ih hline

theorem plainGap (h : s.IsIn text) : (plainGap s).after.IsIn text := by
  rw [Yaml.plainGap]
  dsimp only
  split
  next => exact h.span _
  next c after hbreak =>
    have hline := (h.span _).lineBreak? hbreak
    have hbreaks := hline.plainBreaks (after.left + 1)
    split
    next => exact hline
    next =>
      split
      next hgap => rwa [hgap] at hbreaks
      next hgap => rwa [hgap] at hbreaks

theorem plainWords (h : s.IsIn text) (flow : Bool) (indent : Int) (before : PlainGap) (steps : Nat) :
    (plainWords flow indent before steps s).after.IsIn text := by
  induction steps generalizing s before with
  | zero => exact h
  | succ steps ih =>
    rw [Yaml.plainWords]
    dsimp only
    generalize (if s.peek == some '#' then 0 else plainLength flow s.rest) = length
    have hgap := (h.skip length).plainGap
    split
    next => exact h
    next =>
      split
      next => exact hgap
      next => exact ih hgap _

theorem plainScalar (h : s.IsIn text) (flow : Bool) (indent : Int) :
    (plainScalar flow indent s).after.IsIn text :=
  h.plainWords flow indent _ _

end Source.IsIn

end DeclSplit.Yaml
