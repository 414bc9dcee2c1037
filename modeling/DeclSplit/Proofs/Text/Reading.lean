import DeclSplit.Proofs.Attempts
import DeclSplit.Text.Reading

/-!
# Texts that cannot be read

A text is decoded block by block, and a character may be cut by the end of a block.  Still, what is wrong
with a block is wrong with the bytes of the whole file.

* `Text.Utf8.faultFrom_append` — bytes after well-formed ones are decoded on their own;
* `Text.fault?_of_readPieces` — only a file that is not UTF-8 cannot be read to its end.
-/

namespace DeclSplit.Text

namespace Utf8

/-! ### Bytes of one character -/

theorem validTail_le_length (b : UInt8) (rest : List UInt8) : validTail b rest ≤ rest.length := by
  cases rest with
  | nil => exact Nat.le_refl 0
  | cons second rest =>
    have htail := (List.takeWhile_prefix (l := rest) isContinuation).length_le
    rw [validTail, List.length_cons]
    split <;> omega

/-- The bytes that go on with a character are counted up to a place, or to their end. -/
theorem min_validTail_le (b : UInt8) (rest : List UInt8) (n : Nat) :
    min (validTail b rest) n ≤ validTail b (rest.take n) := by
  cases rest with
  | nil => rw [List.take_nil]; exact Nat.min_le_left ..
  | cons second rest =>
    cases n with
    | zero => exact Nat.min_le_right ..
    | succ n =>
      rw [List.take_succ_cons, validTail, validTail]
      split
      next =>
        rw [← List.take_takeWhile, List.length_take]
        omega
      next => exact Nat.min_le_left ..

/-- Bytes that follow do not take away from those that go on with a character. -/
theorem validTail_le_append (b : UInt8) (rest more : List UInt8) :
    validTail b rest ≤ validTail b (rest ++ more) := by
  cases rest with
  | nil => exact Nat.zero_le _
  | cons second rest =>
    rw [List.cons_append, validTail, validTail, List.takeWhile_append]
    split
    next =>
      split
      next hall => rw [List.length_append, hall]; omega
      next => exact Nat.le_refl _
    next => exact Nat.le_refl _

/-- A character that is broken off by another byte stays so. -/
theorem validTail_append {b : UInt8} {rest : List UInt8} (h : validTail b rest < rest.length)
    (more : List UInt8) : validTail b (rest ++ more) = validTail b rest := by
  cases rest with
  | nil => exact absurd h (Nat.not_lt_zero _)
  | cons second rest =>
    rw [validTail, List.length_cons] at h
    rw [List.cons_append, validTail, validTail]
    split
    next hsecond =>
      rw [if_pos hsecond] at h
      rw [List.takeWhile_append, if_neg (by omega)]
    next => rfl

/-! ### Well-formed bytes and faults -/

/-- A character is complete if enough bytes follow that go on with it. -/
theorem faultFrom_cons (position : Nat) (b : UInt8) (rest : List UInt8) :
    faultFrom position 0 (b :: rest) =
      if sequenceLength b = 0 then some ⟨position, [b], .invalidStart⟩
      else if sequenceLength b - 1 ≤ validTail b rest then
        faultFrom (position + 1) (sequenceLength b - 1) rest
      else
        some ⟨position, (b :: rest).take (validTail b rest + 1),
          if validTail b rest = rest.length then .unexpectedEnd else .invalidContinuation⟩ := by
  rw [faultFrom]
  dsimp only
  split
  next => rfl
  split
  next hone => rw [hone, if_pos (Nat.zero_le _)]
  next =>
    by_cases hlong : sequenceLength b - 1 ≤ validTail b rest
    · rw [if_pos hlong, Nat.min_eq_right hlong, if_pos rfl]
    · rw [if_neg hlong, Nat.min_eq_left (by omega), if_neg (by omega)]

theorem faultFrom_succ (position skip : Nat) (b : UInt8) (rest : List UInt8) :
    faultFrom position (skip + 1) (b :: rest) = faultFrom (position + 1) skip rest := by
  rw [faultFrom]

/-- Whether bytes are well formed does not depend on how many came before. -/
theorem faultFrom_eq_none {position skip : Nat} {bytes : List UInt8}
    (h : faultFrom position skip bytes = none) (other : Nat) : faultFrom other skip bytes = none := by
  induction bytes generalizing position other skip with
  | nil => rfl
  | cons b rest ih =>
    cases skip with
    | succ skip =>
      rw [faultFrom_succ] at h ⊢
      exact ih h _
    | zero =>
      rw [faultFrom_cons] at h ⊢
      split at h
      next => exact nomatch h
      next hstart =>
        split at h
        next hlong => rw [if_neg hstart, if_pos hlong]; exact ih h _
        next => exact nomatch h

/-- Bytes after well-formed ones are decoded on their own. -/
theorem faultFrom_append {position skip : Nat} {bytes : List UInt8} (hskip : skip ≤ bytes.length)
    (h : faultFrom position skip bytes = none) (more : List UInt8) :
    faultFrom position skip (bytes ++ more) = faultFrom (position + bytes.length) 0 more := by
  induction bytes generalizing position skip with
  | nil =>
    obtain rfl : skip = 0 := Nat.le_zero.1 hskip
    rfl
  | cons b rest ih =>
    have hlength : position + 1 + rest.length = position + (b :: rest).length := by
      rw [List.length_cons]
      omega
    rw [← hlength]
    cases skip with
    | succ skip =>
      rw [faultFrom_succ] at h
      rw [List.cons_append, faultFrom_succ]
      exact ih (Nat.le_of_succ_le_succ hskip) h
    | zero =>
      rw [faultFrom_cons] at h
      rw [List.cons_append, faultFrom_cons]
      split at h
      next => exact nomatch h
      next hstart =>
        split at h
        next hlong =>
          rw [if_neg hstart, if_pos (Nat.le_trans hlong (validTail_le_append b rest more))]
          exact ih (Nat.le_trans hlong (validTail_le_length b rest)) h
        next => exact nomatch h

/-- What is wrong with bytes, unless they end too early, is wrong whatever follows. -/
theorem faultFrom_append_ne_none {position skip : Nat} {bytes : List UInt8} {fault : Fault}
    (h : faultFrom position skip bytes = some fault) (hreason : fault.reason ≠ .unexpectedEnd)
    (more : List UInt8) : faultFrom position skip (bytes ++ more) ≠ none := by
  induction bytes generalizing position skip with
  | nil => exact nomatch h
  | cons b rest ih =>
    rw [List.cons_append]
    cases skip with
    | succ skip =>
      rw [faultFrom_succ] at h ⊢
      exact ih h
    | zero =>
      rw [faultFrom_cons] at h ⊢
      split at h
      next hstart => rw [if_pos hstart]; exact nofun
      next hstart =>
        rw [if_neg hstart]
        split at h
        next hlong =>
          rw [if_pos (Nat.le_trans hlong (validTail_le_append b rest more))]
          exact ih h
        next hshort =>
          obtain rfl := Option.some.inj h
          have hbroken : validTail b rest ≠ rest.length := by
            intro hend
            rw [if_pos hend] at hreason
            exact hreason rfl
          have hbefore := validTail_le_length b rest
          rw [validTail_append (by omega), if_neg hshort]
          exact nofun

/-- The bytes before a fault are well formed. -/
theorem faultFrom_take {position skip : Nat} {bytes : List UInt8} {fault : Fault}
    (h : faultFrom position skip bytes = some fault) :
    position + skip ≤ fault.position ∧
      faultFrom position skip (bytes.take (fault.position - position)) = none := by
  induction bytes generalizing position skip with
  | nil => exact nomatch h
  | cons b rest ih =>
    cases skip with
    | succ skip =>
      rw [faultFrom_succ] at h
      obtain ⟨hposition, hbefore⟩ := ih h
      obtain ⟨n, hn⟩ : ∃ n, fault.position - position = n + 1 := ⟨fault.position - position - 1, by omega⟩
      have hn' : fault.position - (position + 1) = n := by omega
      rw [hn'] at hbefore
      rw [hn, List.take_succ_cons, faultFrom_succ]
      exact ⟨by omega, hbefore⟩
    | zero =>
      rw [faultFrom_cons] at h
      split at h
      next =>
        obtain rfl := Option.some.inj h
        exact ⟨Nat.le_refl _, by rw [Nat.sub_self]; rfl⟩
      next hstart =>
        split at h
        next hlong =>
          obtain ⟨hposition, hbefore⟩ := ih h
          obtain ⟨n, hn⟩ : ∃ n, fault.position - position = n + 1 :=
            ⟨fault.position - position - 1, by omega⟩
          have hn' : fault.position - (position + 1) = n := by omega
          have htail := min_validTail_le b rest n
          rw [hn'] at hbefore
          rw [hn, List.take_succ_cons, faultFrom_cons, if_neg hstart, if_pos (by omega)]
          exact ⟨by omega, hbefore⟩
        next =>
          obtain rfl := Option.some.inj h
          exact ⟨Nat.le_refl _, by rw [Nat.sub_self]; rfl⟩

end Utf8

/-! ### Reading on -/

namespace Decoder

open Utf8

/-- The bytes of a file are those that are decoded, which are well formed, and those that are not. -/
def Follows (contents : List UInt8) (d : Decoder) : Prop :=
  ∃ decoded, contents = decoded ++ (d.started ++ d.unread) ∧ fault? decoded = none

variable {contents : List UInt8} {d : Decoder}

/-- What is wrong with the bytes after those that are decoded is wrong with the file. -/
theorem Follows.fault?_ne_none (h : d.Follows contents)
    (hfault : faultFrom 0 0 (d.started ++ d.unread) ≠ none) : fault? contents ≠ none := by
  obtain ⟨decoded, rfl, hdecoded⟩ := h
  rw [fault?, faultFrom_append (Nat.zero_le _) hdecoded]
  exact fun hnone => hfault (faultFrom_eq_none hnone 0)

/-- More well-formed bytes are decoded. -/
theorem Follows.decode (h : d.Follows contents) {d' : Decoder} {bytes : List UInt8}
    (hbytes : d.started ++ d.unread = bytes ++ (d'.started ++ d'.unread))
    (hvalid : fault? bytes = none) : d'.Follows contents := by
  obtain ⟨decoded, hcontents, hdecoded⟩ := h
  refine ⟨decoded ++ bytes, ?_, ?_⟩
  · rw [hcontents, hbytes, List.append_assoc]
  · rw [fault?, faultFrom_append (Nat.zero_le _) hdecoded]
    exact faultFrom_eq_none hvalid _

theorem Follows.finish (h : d.Follows contents) (hunread : d.unread = []) :
    Ensures (fun _ => fault? contents ≠ none) (Follows contents) d.finish := by
  rw [Decoder.finish]
  split
  next f hf =>
    refine h.fault?_ne_none ?_
    rw [hunread, List.append_nil]
    exact Option.ne_none_iff_exists'.2 ⟨f, hf⟩
  next hnone => exact h.decode rfl hnone

theorem Follows.readBlock (h : d.Follows contents) (wanted : Nat) :
    Ensures (fun _ => fault? contents ≠ none) (Follows contents) (d.readBlock wanted) := by
  generalize hsize : d.blockFor wanted = size
  generalize hbytes : d.started ++ d.unread.take size = bytes
  have hsplit : d.started ++ d.unread = bytes ++ d.unread.drop size := by
    rw [← hbytes, List.append_assoc, List.take_append_drop]
  have hnext : ∀ (complete : Nat) (next : Decoder), fault? (bytes.take complete) = none →
      next.started = bytes.drop complete → next.unread = d.unread.drop size →
        next.Follows contents := by
    intro complete next hvalid hstarted hunread
    refine h.decode ?_ hvalid
    rw [hsplit, hstarted, hunread, ← List.append_assoc, List.take_append_drop]
  rw [Decoder.readBlock]
  dsimp only
  rw [hsize, hbytes]
  split
  next hnone => exact hnext bytes.length _ (by rw [List.take_length, hnone]) rfl rfl
  next f hf =>
    split
    next => exact hnext f.position _ (faultFrom_take hf).2 rfl rfl
    next hreason =>
      refine h.fault?_ne_none ?_
      rw [hsplit]
      exact faultFrom_append_ne_none hf hreason _

theorem Follows.takePiece (h : d.Follows contents) (taken : List Char) (steps : Nat) :
    Ensures (fun _ => fault? contents ≠ none) (fun r => Follows contents r.2)
      (d.takePiece taken steps) := by
  induction steps generalizing d taken with
  | zero => exact h
  | succ steps ih =>
    have htaken : Follows contents { d with ready := d.ready.drop (pieceSize - taken.length) } := h
    rw [Decoder.takePiece]
    refine Ensures.ite htaken ?_
    split
    next => exact (htaken.readBlock _).bind fun _ hnext => ih hnext _
    next hunread =>
      have hend : d.unread = [] := by simpa using hunread
      exact (htaken.finish hend).bind fun _ hnext => .ite hnext (ih hnext _)

/-- Only a file that is not UTF-8 cannot be read to its end. -/
theorem Follows.pieces (h : d.Follows contents) (steps : Nat) :
    (d.pieces steps).fault ≠ none → fault? contents ≠ none := by
  induction steps generalizing d with
  | zero => exact fun hfault => absurd rfl hfault
  | succ steps ih =>
    have htake := h.takePiece [] (d.unread.length + 3)
    rw [Decoder.pieces]
    split
    next f hf =>
      rw [hf] at htake
      exact fun _ => htake
    next piece next hnext =>
      rw [hnext] at htake
      split
      next => exact fun hfault => absurd rfl hfault
      next => exact ih htake

end Decoder

/-- Only a file that is not UTF-8 cannot be read to its end. -/
theorem fault?_of_readPieces {contents : List UInt8} (h : (readPieces contents).fault ≠ none) :
    Utf8.fault? contents ≠ none :=
  Decoder.Follows.pieces ⟨[], rfl, rfl⟩ _ h

end DeclSplit.Text
