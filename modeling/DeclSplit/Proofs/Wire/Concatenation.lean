import DeclSplit.Proofs.Wire.Append

/-!
# Files that were written one after the other, or cut off

* `Wire.IsUniform` — what is known of a message decides nothing about its faults;
* `Wire.decode_append` — the bytes of a tree after other bytes, and bytes with a fault after other bytes;
* `Wire.decode_of_isPrefix` — the bytes of a tree that were cut off.
-/

namespace DeclSplit.Wire

variable {σ : Type}

/-! ### Faults -/

/-- Whether a message has a fault, and which, does not depend on what is known before it. -/
def IsUniform (read : σ → Except Stop σ) : Prop :=
  ∃ change : Except Stop (σ → σ), ∀ s, read s = change.map fun put => put s

theorem IsUniform.error {read : σ → Except Stop σ} (h : IsUniform read) {s : σ} {stop : Stop}
    (hs : read s = .error stop) (s' : σ) : read s' = .error stop := by
  obtain ⟨change, hchange⟩ := h
  rw [hchange] at hs ⊢
  cases change with
  | ok put => exact absurd hs (by simp [Except.map])
  | error e => exact hs

theorem IsUniform.bind {read next : σ → Except Stop σ} (hread : IsUniform read)
    (hnext : IsUniform next) : IsUniform fun s => (read s).bind next := by
  obtain ⟨change, hchange⟩ := hread
  obtain ⟨change', hchange'⟩ := hnext
  refine ⟨change.bind fun put => change'.map fun put' s => put' (put s), fun s => ?_⟩
  show (read s).bind next = _
  rw [hchange]
  cases change with
  | ok put =>
    show next (put s) = _
    rw [hchange']
    cases change' <;> rfl
  | error e => rfl

theorem isUniform_takeRecords (stop : List UInt8 → Stop)
    {take : σ → Record × List UInt8 → Except Stop σ} (htake : ∀ r, IsUniform fun s => take s r)
    (rs : List (Record × List UInt8) × List UInt8) :
    IsUniform fun s => takeRecords stop take s rs := by
  obtain ⟨rs, left⟩ := rs
  induction rs with
  | nil =>
    by_cases hleft : left = []
    · exact ⟨.ok id, fun s => if_pos hleft⟩
    · exact ⟨.error (stop left), fun s => if_neg hleft⟩
  | cons r rs ih =>
    simp only [takeRecords_cons]
    exact (htake r).bind ih

/-- A value that is read without what is known, and then put into it. -/
theorem isUniform_map {ρ : Type} (x : Except Stop ρ) (put : ρ → σ → σ) :
    IsUniform fun s => x.bind fun v => .ok (put v s) :=
  ⟨x.map put, fun s => by cases x <;> rfl⟩

theorem isUniform_readField (readChild : List UInt8 → Except Stop Ast)
    (r : Record × List UInt8) : IsUniform fun node => readField readChild node r := by
  obtain ⟨r, after⟩ := r
  obtain ⟨contents, rfl⟩ | ⟨contents, rfl⟩ | ⟨contents, rfl⟩ | hpassed := field_cases r
  · exact isUniform_map (readText contents) fun kind (node : Ast) =>
      .node ⟨kind, node.label.name⟩ node.children
  · exact isUniform_map (readText contents) fun name (node : Ast) =>
      .node ⟨node.label.kind, name⟩ node.children
  · exact isUniform_map ((readChild contents).mapError (Stop.within after)) fun child (node : Ast) =>
      .node node.label (node.children ++ [child])
  · exact ⟨.ok id, fun node => hpassed readChild node after⟩

theorem isUniform_readNode (levels : Nat) (bytes : List UInt8) :
    IsUniform fun node => readNode levels node bytes := by
  cases levels with
  | zero => exact ⟨.error (.fault .tooDeep), fun node => rfl⟩
  | succ levels =>
    simp only [readNode]
    exact isUniform_takeRecords _ (isUniform_readField _) _

theorem isUniform_readRoot (r : Record × List UInt8) : IsUniform fun root => readRoot root r := by
  obtain ⟨r, after⟩ := r
  obtain ⟨contents, rfl⟩ | hpassed := root_cases r
  · obtain ⟨change, hchange⟩ := isUniform_readNode maxLevels contents
    refine ⟨(change.mapError (Stop.within after)).map fun put root => some (put (root.getD blank)),
      fun root => ?_⟩
    have hread : readNode maxLevels (root.getD blank) contents = _ := hchange (root.getD blank)
    show ((readNode maxLevels (root.getD blank) contents).mapError _).bind _ = _
    rw [hread]
    cases change <;> rfl
  · exact ⟨.ok id, fun root => hpassed root after⟩

theorem isUniform_readRootFrom (bytes : List UInt8) : IsUniform fun known => readRootFrom known bytes :=
  isUniform_takeRecords _ isUniform_readRoot _

/-! ### One after the other -/

/-- Bytes that hold a root, or none, can be followed by the bytes of a tree: what the tree has is read over
the root that is known, and the children of both are kept.  A fault of bytes is met again behind them. -/
theorem decode_append {bytes : List UInt8} {known : Option Ast} (hknown : decode bytes = .ok known) :
    (∀ t : Ast, t.depth ≤ 100 → (encodeNode t).length < 2 ^ 31 →
      decode (bytes ++ encode t) = .ok (some (known.elim t fun u => absorb u t))) ∧
    ∀ more e, decode more = .error e → decode (bytes ++ more) = .error e := by
  rw [decode_eq_readRootFrom, mapError_eq_ok] at hknown
  constructor
  · intro t hdepth hlen
    have hlevels : t.depth ≤ maxLevels := hdepth
    rw [decode_eq_readRootFrom, readRootFrom_append hknown, readRootFrom_encode hlen, if_pos hlevels]
    cases known with
    | none =>
      rw [Option.getD_none, absorb_blank]
      rfl
    | some u => rfl
  · intro more e hmore
    rw [decode_eq_readRootFrom] at hmore ⊢
    rw [readRootFrom_append hknown]
    cases hread : readRootFrom none more with
    | ok root =>
      rw [hread] at hmore
      exact absurd hmore (by simp [Except.mapError])
    | error stop =>
      rw [hread] at hmore
      rw [(isUniform_readRootFrom more).error hread known]
      exact hmore

/-- An envelope with a record that it does not know is followed by a tree without a kind, and by a record
that was cut off. -/
theorem decode_append_without_kind :
    decode [0x0a, 0x05, 0x0a, 0x01, 0x46, 0x12, 0x00, 0x18, 0x07] =
        .ok (some (.node ⟨"F", ""⟩ [])) ∧
      decode ([0x0a, 0x05, 0x0a, 0x01, 0x46, 0x12, 0x00, 0x18, 0x07] ++
          encode (.node ⟨"", "g"⟩ [.node ⟨"P", ""⟩ []])) =
        .ok (some (.node ⟨"F", "g"⟩ [.node ⟨"P", ""⟩ []])) ∧
      decode ([0x0a, 0x05, 0x0a, 0x01, 0x46, 0x12, 0x00, 0x18, 0x07] ++ [0x0a, 0x02, 0x12]) =
        .error .corrupt :=
  have h : decode [0x0a, 0x05, 0x0a, 0x01, 0x46, 0x12, 0x00, 0x18, 0x07] =
      .ok (some (.node ⟨"F", ""⟩ [])) := by decide +kernel
  ⟨h, (decode_append h).1 _ (by decide +kernel) (by decide +kernel),
    (decode_append h).2 _ _ (by decide +kernel)⟩

/-! ### Cut off -/

/-- The bytes of a tree that were cut off are refused, unless nothing is left of them: then they hold no
root. -/
theorem decode_of_isPrefix {t : Ast} {bytes : List UInt8} (hlen : (encodeNode t).length < 2 ^ 31)
    (hcut : bytes <+: encode t) (hne : bytes ≠ encode t) :
    decode bytes = if bytes = [] then .ok none else .error .corrupt := by
  obtain ⟨more, hmore⟩ := hcut
  have hwhole := record?_encodeBytes maxLevels [] (show 0 < 1 by decide) (by decide) hlen
  have hnone : record? maxLevels bytes = none := by
    cases hread : record? maxLevels bytes with
    | none => rfl
    | some read =>
      -- the whole record would be read in the same way, and leaves nothing
      obtain ⟨r, rest⟩ := read
      have hagain := record?_append hread more
      rw [hmore, encode, ← List.append_nil (encodeBytes 1 (encodeNode t)), hwhole] at hagain
      obtain ⟨-, hrest⟩ := Prod.mk.inj (Option.some.inj hagain)
      obtain ⟨-, rfl⟩ := List.append_eq_nil_iff.1 hrest.symm
      exact absurd (by rw [← hmore, List.append_nil]) hne
  rw [decode_eq_readRootFrom, readRootFrom]
  cases bytes with
  | nil =>
    rw [records_nil]
    rfl
  | cons b bs =>
    rw [records_of_record?_eq_none hnone, if_neg (List.cons_ne_nil b bs)]
    rfl

/-- What is left is cut off behind the kind, where the message of the root could end. -/
theorem decode_of_isPrefix_behind_kind :
    ([0x0a, 0x06, 0x0a, 0x01, 0x46] : List UInt8) <+: encode (.node ⟨"F", "g"⟩ []) ∧
      decode [0x0a, 0x06, 0x0a, 0x01, 0x46] = .error .corrupt := by
  have hcut : ([0x0a, 0x06, 0x0a, 0x01, 0x46] : List UInt8) <+: encode (.node ⟨"F", "g"⟩ []) :=
    ⟨[0x12, 0x01, 0x67], by decide +kernel⟩
  exact ⟨hcut, decode_of_isPrefix (by decide +kernel) hcut (by decide +kernel)⟩

end DeclSplit.Wire
