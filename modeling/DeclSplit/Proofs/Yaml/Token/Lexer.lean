import DeclSplit.Proofs.Yaml.Token
import DeclSplit.Yaml.Token.Lexer

/-!
# Faults among tokens

Tokens are held back until nothing can be put in before them any more, and the first fault that is met
ends them.

* `Yaml.Fault.IsMet` — the faults that are met in a text that may not go on;
* `Yaml.Lexer.Carries` — a lexer of a text whose tokens hold no other faults, which each step keeps;
* `Yaml.faultsMet_tokens` — a token that is a fault is one of these.
-/

namespace DeclSplit.Yaml

/-- The faults that are met in a text: those of its characters, and the one at its end if it cannot be
read on. -/
def Fault.IsMet (text : List Char) (stop : Option Fault) (fault : Fault) : Prop :=
  fault.IsLexical text ∨ stop = some fault

/-- The faults among tokens are met in the text. -/
def FaultsMet (text : List Char) (stop : Option Fault) (tokens : Array Token) : Prop :=
  ∀ f, .fault f ∈ tokens → f.IsMet text stop

variable {α : Type} {text : List Char} {stop : Option Fault}

theorem Lexes.met {x : Except Fault (α × Source)} (hx : Lexes text x) :
    Ensures (Fault.IsMet text stop) (fun r => r.2.IsIn text) x :=
  Ensures.mono hx (fun _ => Or.inl) fun _ => id

namespace FaultsMet

variable {tokens : Array Token}

theorem push (h : FaultsMet text stop tokens) {t : Token} (ht : ∀ f, t = .fault f → f.IsMet text stop) :
    FaultsMet text stop (tokens.push t) := by
  intro f hf
  rcases Array.mem_push.1 hf with hold | hnew
  · exact h f hold
  · exact ht f hnew.symm

theorem append (h : FaultsMet text stop tokens) {more : Array Token}
    (hmore : FaultsMet text stop more) : FaultsMet text stop (tokens ++ more) := by
  intro f hf
  rcases Array.mem_append.1 hf with hold | hnew
  · exact h f hold
  · exact hmore f hnew

theorem extract (h : FaultsMet text stop tokens) (first last : Nat) :
    FaultsMet text stop (tokens.extract first last) := by
  intro f hf
  obtain ⟨i, hi, hget⟩ := Array.mem_extract_iff_getElem.1 hf
  exact h f (hget ▸ Array.getElem_mem _)

end FaultsMet

namespace Lexer

/-- A lexer of a text with a given end, whose tokens hold no faults but those of the text. -/
structure Carries (text : List Char) (stop : Option Fault) (l : Lexer) : Prop where
  place : l.source.IsIn text
  stop_eq : l.stop = stop
  faults : FaultsMet text stop l.tokens

variable {l : Lexer}

/-- A step of a lexer, which meets no faults but those of the text. -/
abbrev Steps (text : List Char) (stop : Option Fault) (x : Except Fault Lexer) : Prop :=
  Ensures (Fault.IsMet text stop) (Carries text stop) x

theorem Carries.push {l' : Lexer} {t : Token} (h : l.Carries text stop) (hplace : l'.source.IsIn text)
    (hstop : l'.stop = l.stop) (htokens : l'.tokens = l.tokens.push t) (ht : ∀ f, t ≠ .fault f) :
    l'.Carries text stop :=
  ⟨hplace, hstop.trans h.stop_eq, htokens ▸ h.faults.push fun f hf => absurd hf (ht f)⟩

theorem Carries.emit (h : l.Carries text stop) {t : Token} (ht : ∀ f, t ≠ .fault f) :
    (l.emit t).Carries text stop :=
  h.push h.place rfl rfl ht

theorem Carries.emitSign (h : l.Carries text stop) {t : Token} (ht : ∀ f, t ≠ .fault f)
    (length : Nat) : (l.emitSign t length).Carries text stop :=
  h.push (h.place.skip length) rfl rfl ht

/-! ### What lexers keep -/

theorem Carries.skipByteOrderMark (h : l.Carries text stop) :
    Carries text stop { l with source := skipByteOrderMark l.source } := by
  refine ⟨?_, h.stop_eq, h.faults⟩
  show (if _ then _ else _ : Source).IsIn text
  split
  next => exact h.place.next
  next => exact h.place

theorem Carries.skipBlanks (h : l.Carries text stop) (steps : Nat) :
    (Lexer.skipBlanks steps l).Carries text stop := by
  induction steps generalizing l with
  | zero => exact h
  | succ steps ih =>
    rw [Lexer.skipBlanks]
    split
    next hbreak => exact ih ⟨h.place.skipComment.lineBreak? hbreak, h.stop_eq, h.faults⟩
    next => exact ⟨h.place.skipComment, h.stop_eq, h.faults⟩

theorem Carries.closeBelow (h : l.Carries text stop) (column : Int) :
    (l.closeBelow column).Carries text stop := by
  rw [Lexer.closeBelow]
  split
  next => exact h
  next =>
    refine ⟨h.place, h.stop_eq, h.faults.append fun f hf => ?_⟩
    obtain ⟨_, -, hend⟩ := List.mem_map.1 (List.mem_toArray.1 hf)
    exact nomatch hend

theorem Carries.openBlock (h : l.Carries text stop) {t : Token} (ht : ∀ f, t ≠ .fault f) :
    (l.openBlock t).Carries text stop := by
  rw [Lexer.openBlock]
  split
  next => exact h.push h.place rfl rfl ht
  next => exact h

theorem Carries.insertKey (h : l.Carries text stop) (start : KeyStart) :
    (l.insertKey start).Carries text stop := by
  refine ⟨h.place, h.stop_eq,
    ((h.faults.extract _ _).append fun f hf => ?_).append (h.faults.extract _ _)⟩
  split at hf <;> simp at hf

/-! ### Steps -/

theorem ensures_malformed_met {Q : α → Prop} : Ensures (Fault.IsMet text stop) Q malformed :=
  Or.inl .malformed

theorem Carries.forgetKey (h : l.Carries text stop) : Steps text stop l.forgetKey :=
  Ensures.ite ensures_malformed_met ⟨h.place, h.stop_eq, h.faults⟩

theorem Carries.noteKey (h : l.Carries text stop) : Steps text stop l.noteKey :=
  Ensures.ite h (h.forgetKey.bind fun _ hl => ⟨hl.place, hl.stop_eq, hl.faults⟩)

theorem Carries.dropStale (h : l.Carries text stop) : Steps text stop l.dropStale :=
  Ensures.ite ensures_malformed_met ⟨h.place, h.stop_eq, h.faults⟩

theorem Carries.endStream (h : l.Carries text stop) : Steps text stop l.endStream :=
  (h.closeBelow (-1)).forgetKey.bind fun _ hl => hl.emit nofun

theorem Carries.betweenDocuments (h : l.Carries text stop) : Steps text stop l.betweenDocuments :=
  (h.closeBelow (-1)).forgetKey.bind fun _ hl => ⟨hl.place, hl.stop_eq, hl.faults⟩

theorem Carries.directiveLine (h : l.Carries text stop) : Steps text stop l.directiveLine :=
  h.betweenDocuments.bind fun _ hl => (lexes_directive hl.place).met.bind fun _ hr =>
    hl.push hr rfl rfl nofun

theorem Carries.openFlow (h : l.Carries text stop) {t : Token} (ht : ∀ f, t ≠ .fault f) :
    Steps text stop (l.openFlow t) :=
  h.noteKey.bind fun _ hl => hl.push (hl.place.skip 1) rfl rfl ht

theorem Carries.closeFlow (h : l.Carries text stop) {t : Token} (ht : ∀ f, t ≠ .fault f) :
    Steps text stop (l.closeFlow t) :=
  h.forgetKey.bind fun _ hl => hl.push (hl.place.skip 1) rfl rfl ht

theorem Carries.flowSeparator (h : l.Carries text stop) : Steps text stop l.flowSeparator :=
  h.forgetKey.bind fun _ hl => hl.push (hl.place.skip 1) rfl rfl nofun

theorem Carries.blockSign (h : l.Carries text stop) (start sign : Token)
    (hstart : ∀ f, start ≠ .fault f) (hsign : ∀ f, sign ≠ .fault f) (keyAllowed : Bool) :
    Steps text stop (l.blockSign start sign keyAllowed) := by
  have hopen : (if l.inFlow then l else l.openBlock start).Carries text stop := by
    split
    next => exact h
    next => exact h.openBlock hstart
  exact ensures_malformed_met.guarded
    (hopen.forgetKey.bind fun _ hl => hl.push (hl.place.skip 1) rfl rfl hsign)

theorem Carries.valueSign (h : l.Carries text stop) : Steps text stop l.valueSign := by
  rw [Lexer.valueSign]
  split
  next start hstart =>
    have hkey := h.insertKey start
    exact hkey.push (hkey.place.skip 1) rfl rfl nofun
  next => exact h.blockSign .blockMappingStart .value nofun nofun _

/-- The tokens of a reader, none of which is a fault. -/
def ReadsToken (text : List Char) (read : Source → Except Fault (Token × Source)) : Prop :=
  ∀ s, s.IsIn text → Ensures (Fault.IsLexical text)
    (fun r => (∀ f, r.1 ≠ .fault f) ∧ r.2.IsIn text) (read s)

theorem Carries.inlineToken (h : l.Carries text stop)
    {read : Source → Except Fault (Token × Source)} (hread : ReadsToken text read) :
    Steps text stop (l.inlineToken read) := by
  refine h.noteKey.bind fun next hl => ?_
  have hnext : Ensures (Fault.IsMet text stop) (fun r => (∀ f, r.1 ≠ .fault f) ∧ r.2.IsIn text)
      (read next.source) :=
    (hread next.source hl.place).mono (fun _ => Or.inl) fun _ => id
  exact hnext.bind fun _ hr => hl.push hr.2 rfl rfl hr.1

theorem Carries.plain (h : l.Carries text stop) : Steps text stop l.plain :=
  h.noteKey.bind fun _ hl => hl.push (hl.place.plainScalar _ _) rfl rfl nofun

theorem Carries.block (h : l.Carries text stop) (folded : Bool) : Steps text stop (l.block folded) := by
  have hallow : (l.allowKey true).Carries text stop := ⟨h.place, h.stop_eq, h.faults⟩
  exact hallow.forgetKey.bind fun _ hl =>
    (lexes_blockScalar _ _ hl.place).met.bind fun _ hr => hl.push hr rfl rfl nofun

theorem Carries.tokenAt (h : l.Carries text stop) (c : Char) : Steps text stop (l.tokenAt c) := by
  have hquoted : ReadsToken text (quoted c) :=
    fun s hs => (lexes_quotedScalar c hs).bind fun _ hr => ⟨nofun, hr⟩
  have hmarker : ∀ t : Token, (∀ f, t ≠ .fault f) →
      Steps text stop (do return (← l.betweenDocuments).emitSign t 3) :=
    fun t ht => h.betweenDocuments.bind fun _ hl => hl.emitSign ht 3
  refine .ite h.directiveLine (.ite (hmarker _ nofun) (.ite (hmarker _ nofun) ?_))
  refine .ite (h.openFlow nofun) (.ite (h.openFlow nofun) ?_)
  refine .ite (h.closeFlow nofun) (.ite (h.closeFlow nofun) (.ite h.flowSeparator ?_))
  refine .ite (h.blockSign .blockSequenceStart .blockEntry nofun nofun true) ?_
  refine .ite (h.blockSign .blockMappingStart .key nofun nofun (!l.inFlow)) (.ite h.valueSign ?_)
  refine .ite (h.inlineToken fun s hs => (lexes_anchorName hs).bind fun _ hr => ⟨nofun, hr⟩) ?_
  refine .ite (h.inlineToken fun s hs => (lexes_anchorName hs).bind fun _ hr => ⟨nofun, hr⟩) ?_
  refine .ite (h.inlineToken fun s hs => (lexes_tag hs).bind fun _ hr => ⟨nofun, hr⟩) ?_
  refine .ite (h.block false) (.ite (h.block true) (.ite (h.inlineToken hquoted) ?_))
  exact .ite h.plain ensures_malformed_met

theorem Carries.checkEnd (h : l.Carries text stop) : FailsWith (Fault.IsMet text stop) l.checkEnd := by
  rw [Lexer.checkEnd]
  split
  next f hstop => exact Ensures.ite (Or.inr (h.stop_eq ▸ hstop)) trivial
  next => trivial

theorem isMet_faultBefore {f : Fault} (h : f.IsMet text stop) :
    (faultBefore stop f).IsMet text stop := by
  rw [faultBefore.eq_def]
  split
  next =>
    cases stop with
    | none => exact Or.inl .unfinished
    | some met => exact Or.inr rfl
  next => exact h

theorem Carries.next (h : l.Carries text stop) : Steps text stop l.next := by
  have hstart := h.skipByteOrderMark.skipBlanks (l.source.left + 1)
  refine hstart.checkEnd.bind fun _ => hstart.dropStale.bind fun fresh hfresh => ?_
  have hclosed := hfresh.closeBelow fresh.source.column
  dsimp only
  split
  next => exact hclosed.endStream
  next c hc =>
    have htoken : Steps text stop (((fresh.closeBelow fresh.source.column).tokenAt c).mapError
        (faultBefore (fresh.closeBelow fresh.source.column).stop)) := by
      rw [hclosed.stop_eq]
      exact (hclosed.tokenAt c).mapError fun f hf => isMet_faultBefore hf
    exact htoken.bind fun _ hl => hl.checkEnd.bind fun _ => hl

/-- The faults among the tokens that are handed out are met in the text. -/
theorem Carries.run (h : l.Carries text stop) {before : Array Token}
    (hbefore : FaultsMet text stop before) (steps : Nat) :
    FaultsMet text stop (l.run before steps) := by
  induction steps generalizing l before with
  | zero => exact hbefore.append h.faults
  | succ steps ih =>
    rw [Lexer.run]
    split
    next => exact hbefore.append h.faults
    have hfresh : Steps text stop (if l.tokens.isEmpty then .ok l else l.dropStale) :=
      .ite h h.dropStale
    -- the only faults that become tokens are those that end the run
    split
    next f hf =>
      rw [hf] at hfresh
      exact hbefore.push fun _ hmet => Token.fault.inj hmet ▸ hfresh
    next fresh hl =>
      rw [hl] at hfresh
      obtain hfresh : fresh.Carries text stop := hfresh
      split
      next =>
        have hnext := hfresh.next
        split
        next f hf =>
          rw [hf] at hnext
          exact hbefore.push fun _ hmet => Token.fault.inj hmet ▸ hnext
        next further hfurther =>
          rw [hfurther] at hnext
          exact ih hnext hbefore
      next =>
        have hrest : Carries text stop { fresh with
            tokens := fresh.tokens.drop 1, handedOut := fresh.handedOut + 1 } :=
          ⟨hfresh.place, hfresh.stop_eq, hfresh.faults.extract _ _⟩
        exact ih hrest (hbefore.append (hfresh.faults.extract _ _))

end Lexer

/-- The faults among the tokens of a text are met in it. -/
theorem faultsMet_tokens (input : Input) : FaultsMet input.text input.stop (tokens input) := by
  have hnone : FaultsMet input.text input.stop #[] := fun f hf => absurd hf (Array.not_mem_empty _)
  have hstart : (Lexer.ofInput input).Carries input.text input.stop :=
    ⟨List.suffix_rfl, rfl, hnone⟩
  exact hstart.run hnone _

end DeclSplit.Yaml
