import DeclSplit.Proofs.Wire.Append

/-!
# Records that nobody asked for

A writer that knows more fields may put records between those of a tree, at any level.  Here it is said
which bytes hold a tree in this way, and that reading them gives the tree and nothing else.

* `Wire.IsMessage`, `Wire.IsEnvelope` — the bytes of a node message and of an envelope, with records that
  they do not know anywhere between their fields;
* `Wire.readField_of_not_known` — such a record leaves a node as it is;
* `Wire.readNode_of_isMessage`, `Wire.readRootFrom_of_isEnvelope` — what is read from these bytes;
* `Wire.isMessage_encodeNode` — what is written are such bytes;
* `Wire.decode_of_isEnvelope` — a tree is read from all bytes that hold it.
-/

namespace DeclSplit.Wire

/-! ### Bytes that hold a tree -/

/-- The bytes of a node message, field after field: the kind and the name, each only if it is not empty,
then the children.  Records that the message does not know may stand before, between and after them.  The
node and what is below it have `levels` levels, and in a record the groups count as well. -/
inductive IsMessage : (levels : Nat) → Ast → List UInt8 → Prop where
  | empty {levels : Nat} : IsMessage (levels + 1) blank []
  | kind {levels : Nat} {s : String} {bytes record : List UInt8}
      (h : IsMessage (levels + 1) blank bytes) (hs : s ≠ "") (hrecord : IsDelimited 1 (utf8 s) record) :
      IsMessage (levels + 1) (.node ⟨s, ""⟩ []) (bytes ++ record)
  | name {levels : Nat} {kind s : String} {bytes record : List UInt8}
      (h : IsMessage (levels + 1) (.node ⟨kind, ""⟩ []) bytes) (hs : s ≠ "")
      (hrecord : IsDelimited 2 (utf8 s) record) :
      IsMessage (levels + 1) (.node ⟨kind, s⟩ []) (bytes ++ record)
  | child {levels : Nat} {label : Ast.Label} {ts : List Ast} {t : Ast}
      {bytes contents record : List UInt8} (h : IsMessage (levels + 1) (.node label ts) bytes)
      (ht : IsMessage levels t contents) (hrecord : IsDelimited 3 contents record) :
      IsMessage (levels + 1) (.node label (ts ++ [t])) (bytes ++ record)
  | unknown {levels : Nat} {t : Ast} {bytes record : List UInt8} (h : IsMessage (levels + 1) t bytes)
      (hrecord : IsUnknown [1, 2, 3] levels record) : IsMessage (levels + 1) t (bytes ++ record)

/-- The bytes of an envelope, with or without a root.  Records that it does not know may stand before and
after the root. -/
inductive IsEnvelope : Option Ast → List UInt8 → Prop where
  | empty : IsEnvelope none []
  | root {t : Ast} {bytes contents record : List UInt8} (h : IsEnvelope none bytes)
      (ht : IsMessage maxLevels t contents) (hrecord : IsDelimited 1 contents record) :
      IsEnvelope (some t) (bytes ++ record)
  | unknown {root : Option Ast} {bytes record : List UInt8} (h : IsEnvelope root bytes)
      (hrecord : IsUnknown [1] maxLevels record) : IsEnvelope root (bytes ++ record)

/-! ### What is read from them -/

theorem readField_of_not_known {r : Record}
    (h : ∀ contents, r.payload = .bytes contents → r.field ∉ [1, 2, 3])
    (readChild : List UInt8 → Except Stop Ast) (node : Ast) (after : List UInt8) :
    readField readChild node (r, after) = .ok node := by
  obtain ⟨contents, rfl⟩ | ⟨contents, rfl⟩ | ⟨contents, rfl⟩ | hpassed := field_cases r
  · exact absurd (by simp) (h contents rfl)
  · exact absurd (by simp) (h contents rfl)
  · exact absurd (by simp) (h contents rfl)
  · exact hpassed readChild node after

theorem readRoot_of_not_known {r : Record}
    (h : ∀ contents, r.payload = .bytes contents → r.field ∉ [1]) (root : Option Ast)
    (after : List UInt8) : readRoot root (r, after) = .ok root := by
  obtain ⟨contents, rfl⟩ | hpassed := root_cases r
  · exact absurd (by simp) (h contents rfl)
  · exact hpassed root after

/-- Bytes of one record are read as that record. -/
theorem takeRecords_of_record? {σ : Type} (stop : List UInt8 → Stop)
    (take : σ → Record × List UInt8 → Except Stop σ) (start : σ) {groups : Nat} {bytes : List UInt8}
    {r : Record} (h : record? groups (bytes ++ []) = some (r, [])) :
    takeRecords stop take start (records groups bytes) = take start (r, []) := by
  rw [List.append_nil] at h
  rw [records_of_record? h, records_nil, takeRecords_cons]
  cases take start (r, []) <;> rfl

theorem readNode_of_isDelimited {levels field : Nat} {contents record : List UInt8} (hpos : 0 < field)
    (h : IsDelimited field contents record) (node : Ast) :
    readNode (levels + 1) node record =
      readField (readNode levels blank) node (⟨field, .bytes contents⟩, []) := by
  rw [readNode]
  exact takeRecords_of_record? _ _ _ (record?_of_isDelimited hpos h [])

theorem readNode_of_isUnknown {levels : Nat} {record : List UInt8}
    (h : IsUnknown [1, 2, 3] levels record) (node : Ast) :
    readNode (levels + 1) node record = .ok node := by
  obtain ⟨r, hr, hknown⟩ := record?_of_isUnknown h []
  rw [readNode, takeRecords_of_record? _ _ _ hr, readField_of_not_known hknown]

/-- A node message that holds a tree is filled in with the tree. -/
theorem readNode_of_isMessage {levels : Nat} {t : Ast} {bytes : List UInt8}
    (h : IsMessage levels t bytes) : readNode levels blank bytes = .ok t := by
  induction h with
  | empty => exact readNode_nil _ blank
  | kind h hs hrecord ih =>
    rw [readNode_append ih, readNode_of_isDelimited (by decide) hrecord, readField, readText_utf8]
    rfl
  | name h hs hrecord ih =>
    rw [readNode_append ih, readNode_of_isDelimited (by decide) hrecord, readField, readText_utf8]
    rfl
  | child h ht hrecord ih iht =>
    rw [readNode_append ih, readNode_of_isDelimited (by decide) hrecord, readField, iht]
    rfl
  | unknown h hrecord ih => rw [readNode_append ih, readNode_of_isUnknown hrecord]

theorem readRootFrom_of_isEnvelope {root : Option Ast} {bytes : List UInt8}
    (h : IsEnvelope root bytes) : readRootFrom none bytes = .ok root := by
  induction h with
  | empty =>
    rw [readRootFrom, records_nil]
    rfl
  | root h ht hrecord ih =>
    rw [readRootFrom_append ih, readRootFrom,
      takeRecords_of_record? _ _ _ (record?_of_isDelimited (by decide) hrecord []), readRoot,
      Option.getD_none, readNode_of_isMessage ht]
    rfl
  | unknown h hrecord ih =>
    obtain ⟨r, hr, hknown⟩ := record?_of_isUnknown hrecord []
    rw [readRootFrom_append ih, readRootFrom, takeRecords_of_record? _ _ _ hr,
      readRoot_of_not_known hknown]

/-! ### What is written -/

theorem isMessage_encodeKind {levels : Nat} {s : String} (hlen : (encodeText 1 s).length < 2 ^ 31) :
    IsMessage (levels + 1) (.node ⟨s, ""⟩ []) (encodeText 1 s) := by
  have hutf8 := length_utf8_le 1 s
  rw [encodeText]
  by_cases hs : s = ""
  · rw [if_pos hs, hs]
    exact IsMessage.empty
  · rw [if_neg hs]
    have hkind := IsMessage.kind (@IsMessage.empty levels) hs
      (isDelimited_encodeBytes (show 1 < 2 ^ 29 by decide) (by omega))
    rw [List.nil_append] at hkind
    exact hkind

theorem isMessage_encodeName {levels : Nat} {kind s : String} {bytes : List UInt8}
    (h : IsMessage (levels + 1) (.node ⟨kind, ""⟩ []) bytes)
    (hlen : (encodeText 2 s).length < 2 ^ 31) :
    IsMessage (levels + 1) (.node ⟨kind, s⟩ []) (bytes ++ encodeText 2 s) := by
  have hutf8 := length_utf8_le 2 s
  rw [encodeText]
  by_cases hs : s = ""
  · rw [if_pos hs, hs, List.append_nil]
    exact h
  · rw [if_neg hs]
    exact IsMessage.name h hs (isDelimited_encodeBytes (by decide) (by omega))

theorem isMessage_encodeChildren {levels : Nat} {label : Ast.Label} {ts us : List Ast}
    {bytes : List UInt8} (h : IsMessage (levels + 1) (.node label ts) bytes)
    (hus : ∀ u ∈ us, (encodeNode u).length < 2 ^ 31 → IsMessage levels u (encodeNode u))
    (hlen : (encodeChildren us).length < 2 ^ 31) :
    IsMessage (levels + 1) (.node label (ts ++ us)) (bytes ++ encodeChildren us) := by
  induction us generalizing ts bytes with
  | nil =>
    rw [encodeChildren, List.append_nil, List.append_nil]
    exact h
  | cons u us ih =>
    have hrecord := length_encodeBytes_lt 3 (encodeNode u)
    rw [encodeChildren, List.length_append] at hlen
    have hchild := IsMessage.child h (hus u List.mem_cons_self (by omega))
      (isDelimited_encodeBytes (show 3 < 2 ^ 29 by decide) (by omega))
    have hafter := ih hchild (fun v hv => hus v (List.mem_cons_of_mem u hv)) (by omega)
    rw [List.append_assoc, List.append_assoc, List.singleton_append] at hafter
    rw [encodeChildren]
    exact hafter

/-- What is written of a tree is a node message that holds it. -/
theorem isMessage_encodeNode {levels : Nat} {t : Ast} (hdepth : t.depth ≤ levels)
    (hlen : (encodeNode t).length < 2 ^ 31) : IsMessage levels t (encodeNode t) := by
  induction t using Tree.induction generalizing levels with
  | node label ts ih =>
    cases levels with
    | zero => exact absurd (Tree.depth_pos (.node label ts)) (by omega)
    | succ levels =>
      rw [Tree.depth_le_iff] at hdepth
      rw [encodeNode, List.length_append, List.length_append] at hlen
      have hkind : IsMessage (levels + 1) _ _ := isMessage_encodeKind (s := label.kind) (by omega)
      have hname := isMessage_encodeName (s := label.name) hkind (by omega)
      rw [encodeNode]
      exact isMessage_encodeChildren hname (fun t ht => ih t ht (hdepth t ht)) (by omega)

/-- What is written of a tree holds it, and it is read from all bytes that hold it, whatever records that
nobody knows stand between its fields. -/
theorem decode_of_isEnvelope (t : Ast) (hdepth : t.depth ≤ 100) :
    ((encodeNode t).length < 2 ^ 31 → IsEnvelope (some t) (encode t)) ∧
    ∀ bytes, IsEnvelope (some t) bytes → decode bytes = .ok (some t) := by
  constructor
  · intro hlen
    have hroot := IsEnvelope.root .empty (isMessage_encodeNode hdepth hlen)
      (isDelimited_encodeBytes (show 1 < 2 ^ 29 by decide) hlen)
    rw [List.nil_append] at hroot
    exact hroot
  · intro bytes h
    rw [decode_eq_readRootFrom, readRootFrom_of_isEnvelope h]
    rfl

/-- A group of the root's own field number, with a number of two bytes in it, stands before the root, and a
number in the place of its kind stands behind the name. -/
theorem decode_of_isEnvelope_group_before_root :
    (Tree.node ⟨"", "f"⟩ [] : Ast).depth ≤ 100 ∧
      IsEnvelope (some (.node ⟨"", "f"⟩ []))
        [0x0b, 0x18, 0x80, 0x00, 0x0c, 0x0a, 0x05, 0x12, 0x01, 0x66, 0x08, 0x07] ∧
      decode [0x0b, 0x18, 0x80, 0x00, 0x0c, 0x0a, 0x05, 0x12, 0x01, 0x66, 0x08, 0x07] =
        .ok (some (.node ⟨"", "f"⟩ [])) := by
  have hdepth : (Tree.node ⟨"", "f"⟩ [] : Ast).depth ≤ 100 := by decide +kernel
  have hpadded : IsVarint 10 0 [0x80, 0x00] :=
    .more (b := 0x80) (by decide) (.last (b := 0x00) (by decide))
  have hchild : IsTag 3 0 [0x18] := ⟨by decide, .last (b := 0x18) (by decide)⟩
  have hinside : InGroup 99 [0x18, 0x80, 0x00] := .scalar hchild (.varint hpadded) .nil
  have hbegins : IsTag 1 3 [0x0b] := ⟨by decide, .last (b := 0x0b) (by decide)⟩
  have hends : IsTag 1 4 [0x0c] := ⟨by decide, .last (b := 0x0c) (by decide)⟩
  have hgroup : IsUnknown [1] maxLevels [0x0b, 0x18, 0x80, 0x00, 0x0c] :=
    .group (by decide) hbegins hinside hends
  have htext : encodeBytes 2 (utf8 "f") = [0x12, 0x01, 0x66] := by decide +kernel
  have hf : IsDelimited 2 (utf8 "f") [0x12, 0x01, 0x66] := by
    rw [← htext]
    exact isDelimited_encodeBytes (by decide) (by decide +kernel)
  have hname : IsMessage maxLevels (.node ⟨"", "f"⟩ []) [0x12, 0x01, 0x66] :=
    .name .empty (by decide) hf
  have hkind : IsTag 1 0 [0x08] := ⟨by decide, .last (b := 0x08) (by decide)⟩
  have hnumber : IsVarint 10 7 [0x07] := .last (b := 0x07) (by decide)
  have hvarint : IsUnknown [1, 2, 3] 99 [0x08, 0x07] :=
    .scalar (by decide) (fun htype => absurd htype (by decide)) hkind (.varint hnumber)
  have hmessage : IsMessage maxLevels (.node ⟨"", "f"⟩ []) [0x12, 0x01, 0x66, 0x08, 0x07] :=
    .unknown hname hvarint
  have hroot : IsDelimited 1 [0x12, 0x01, 0x66, 0x08, 0x07] [0x0a, 0x05, 0x12, 0x01, 0x66, 0x08, 0x07] :=
    ⟨[0x0a], [0x05], ⟨by decide, .last (b := 0x0a) (by decide)⟩,
      ⟨by decide, .last (b := 0x05) (by decide)⟩, rfl⟩
  have henvelope : IsEnvelope (some (.node ⟨"", "f"⟩ []))
      [0x0b, 0x18, 0x80, 0x00, 0x0c, 0x0a, 0x05, 0x12, 0x01, 0x66, 0x08, 0x07] :=
    .root (.unknown .empty hgroup) hmessage hroot
  exact ⟨hdepth, henvelope, (decode_of_isEnvelope _ hdepth).2 _ henvelope⟩

end DeclSplit.Wire
