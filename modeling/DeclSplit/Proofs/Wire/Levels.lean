import DeclSplit.Proofs.Wire.RoundTrip

/-!
# Levels of what is read

Whatever the bytes are, the number of levels that a reader has left bounds the message that it fills, so
that the bound on messages never refuses what was read.

* `Wire.Ends` — what is known of the end of a reader: a message with a property, or a fault of the
  bytes;
* `Wire.takeRecords_ends` — what each record keeps is kept by all of them;
* `Wire.readNode_ends`, `Wire.readEnvelope_ends` — a message has no more levels than were left for it;
* `Wire.decode_cases` — what reading any bytes comes to.
-/

namespace DeclSplit.Wire

variable {σ τ : Type}

/-- A reader ends with a value that has a property, or it is stopped, but never because a message has
too many levels to be a tree. -/
def Ends (P : σ → Prop) : Except Stop σ → Prop
  | .ok s => P s
  | .error stop => stop.error ≠ .tooManyLevels

theorem Ends.bind {P : σ → Prop} {Q : τ → Prop} {x : Except Stop σ} {f : σ → Except Stop τ}
    (hx : Ends P x) (hf : ∀ s, P s → Ends Q (f s)) : Ends Q (x >>= f) := by
  cases x with
  | ok s => exact hf s hx
  | error stop => exact hx

/-! ### Faults -/

theorem error_unreadable_ne (left beyond : List UInt8) :
    (Stop.unreadable left beyond).error ≠ .tooManyLevels := by
  rw [Stop.error]
  split
  · split <;> decide
  · decide

/-- A fault seen from the message around it is still one of the bytes. -/
theorem Ends.mapError_within {P : σ → Prop} {x : Except Stop σ} (after : List UInt8)
    (hx : Ends P x) : Ends P (x.mapError (Stop.within after)) := by
  cases x with
  | ok s => exact hx
  | error stop =>
    cases stop with
    | fault e => exact hx
    | unreadable left beyond => exact error_unreadable_ne left (beyond ++ after)

theorem readText_ends (bytes : List UInt8) : Ends (fun _ => True) (readText bytes) := by
  rw [readText]
  split
  · trivial
  · show Error.badUtf8 ≠ .tooManyLevels
    decide

/-! ### All records -/

/-- What each record keeps is kept by all of them. -/
theorem takeRecords_ends {P : σ → Prop} {stop : List UInt8 → Stop}
    {take : σ → Record × List UInt8 → Except Stop σ}
    (hstop : ∀ left, (stop left).error ≠ .tooManyLevels)
    (htake : ∀ s r, P s → Ends P (take s r)) {start : σ} (hstart : P start)
    (rs : List (Record × List UInt8) × List UInt8) : Ends P (takeRecords stop take start rs) := by
  obtain ⟨rs, left⟩ := rs
  induction rs generalizing start with
  | nil =>
    show Ends P (if left = [] then .ok start else .error (stop left))
    split
    · exact hstart
    · exact hstop left
  | cons r rs ih =>
    rw [takeRecords_cons]
    exact (htake start r hstart).bind fun next hnext => ih hnext

/-! ### Nodes and envelopes -/

theorem depth_blank : blank.depth = 1 := by
  rw [blank, Tree.depth, Tree.forestDepth]

/-- A record does not make a node deeper than its children may be. -/
theorem readField_ends {levels : Nat}
    (hchild : ∀ bytes, Ends (fun t => t.depth ≤ levels) (readNode levels blank bytes)) (node : Ast)
    (record : Record × List UInt8) (hnode : node.depth ≤ levels + 1) :
    Ends (fun t => t.depth ≤ levels + 1) (readField (readNode levels blank) node record) := by
  obtain ⟨label, children⟩ := node
  rw [Tree.depth_le_iff] at hnode
  unfold readField
  split
  · exact (readText_ends _).bind fun _ _ => (Tree.depth_le_iff _ _).2 hnode
  · exact (readText_ends _).bind fun _ _ => (Tree.depth_le_iff _ _).2 hnode
  · refine ((hchild _).mapError_within _).bind fun child hdepth => (Tree.depth_le_iff _ _).2 ?_
    intro t ht
    rcases List.mem_append.1 ht with ht | ht
    · exact hnode t ht
    · rw [List.mem_singleton.1 ht]
      exact hdepth
  · exact (Tree.depth_le_iff _ _).2 hnode

/-- A node has no more levels than were left for it. -/
theorem readNode_ends (levels : Nat) {node : Ast} (hnode : node.depth ≤ levels) (bytes : List UInt8) :
    Ends (fun t => t.depth ≤ levels) (readNode levels node bytes) := by
  induction levels generalizing node bytes with
  | zero => exact absurd (Tree.depth_pos node) (by omega)
  | succ levels ih =>
    rw [readNode]
    have hbelow : ∀ bytes, Ends (fun t => t.depth ≤ levels) (readNode levels blank bytes) := by
      intro bytes
      cases levels with
      | zero =>
        rw [readNode]
        show Error.tooDeep ≠ .tooManyLevels
        decide
      | succ levels => exact ih (by rw [depth_blank]; omega) bytes
    exact takeRecords_ends (P := fun t : Ast => t.depth ≤ levels + 1)
      (fun left => error_unreadable_ne left []) (readField_ends hbelow) hnode _

/-- The root of an envelope has no more than the allowed levels, also one that is filled several
times. -/
theorem readEnvelope_ends (bytes : List UInt8) :
    Ends (fun root => ∀ t ∈ root, t.depth ≤ maxLevels) (readEnvelope bytes) := by
  have hrecord : ∀ (root : Option Ast) record, (∀ t ∈ root, t.depth ≤ maxLevels) →
      Ends (fun root => ∀ t ∈ root, t.depth ≤ maxLevels) (readRoot root record) := by
    intro root record hroot
    have hknown : (root.getD blank).depth ≤ maxLevels := by
      cases root with
      | none => rw [Option.getD_none, depth_blank]; decide
      | some t => exact hroot t rfl
    unfold readRoot
    split
    · refine ((readNode_ends maxLevels hknown _).mapError_within _).bind fun t hdepth => ?_
      rintro _ ⟨⟩
      exact hdepth
    · exact hroot
  refine takeRecords_ends (fun left => ?_) hrecord (fun t ht => absurd ht (by simp)) _
  show Error.corrupt ≠ .tooManyLevels
  decide

/-- Bytes hold no root, or are refused for a fault that reading them met, or hold a tree of no more than
the allowed levels, which is read back from its own bytes.  What was read is never refused as a message
for its levels. -/
theorem decode_cases (bytes : List UInt8) :
    (∀ message, readEnvelope bytes = .ok (some message) → toAst message = some message) ∧
      (decode bytes = .ok none ∨
        (∃ stop, readEnvelope bytes = .error stop ∧ decode bytes = .error stop.error ∧
          stop.error ≠ .tooManyLevels) ∨
        ∃ t, decode bytes = .ok (some t) ∧ t.depth ≤ 100 ∧
          ((encodeNode t).length < 2 ^ 31 → decode (encode t) = .ok (some t))) := by
  have hends := readEnvelope_ends bytes
  have htree : ∀ message, readEnvelope bytes = .ok (some message) →
      toAst message = some message := by
    intro message hread
    rw [hread] at hends
    rw [toAst_eq, if_pos (hends message rfl)]
  refine ⟨htree, ?_⟩
  cases hread : readEnvelope bytes with
  | error stop =>
    rw [hread] at hends
    refine .inr (.inl ⟨stop, rfl, ?_, hends⟩)
    rw [decode, hread]
    rfl
  | ok root =>
    cases root with
    | none =>
      refine .inl ?_
      rw [decode, hread]
      rfl
    | some t =>
      rw [hread] at hends
      refine .inr (.inr ⟨t, ?_, hends t rfl, fun hlen => ?_⟩)
      · exact decode_of_readEnvelope hread (hends t rfl)
      · rw [decode_encode_eq hlen, if_pos (hends t rfl)]

end DeclSplit.Wire
