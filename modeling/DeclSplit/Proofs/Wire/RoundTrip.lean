import DeclSplit.Wire.Decode
import DeclSplit.Proofs.Wire.Message
import DeclSplit.Proofs.Wire.Records

/-!
# Reading back trees

A tree that was written is read back, unless it has more levels than a reader allows; then the reader
says so.

* `Wire.text?_utf8` — a text is read back from its bytes;
* `Wire.absorb` — what is known of a node after one more message of it;
* `Wire.isReadBack` — the message of a tree is filled into what is known of the node, if the tree has no
  more levels than are left;
* `Wire.readRootFrom_encode` — the bytes of a tree are absorbed by the root that is known;
* `Wire.decode_encode` — the bytes of a tree are read back, or refused for its depth.
-/

namespace DeclSplit.Wire

/-! ### Texts -/

theorem text?_utf8 (s : String) : text? (utf8 s) = some s := by
  rw [text?, utf8, Array.toArray_toList]
  exact dif_pos s.isValidUTF8

theorem readText_utf8 (s : String) : readText (utf8 s) = .ok s := by
  rw [readText, text?_utf8]

/-! ### One record after the other -/

theorem takeRecords_cons {σ : Type} (stop : List UInt8 → Stop)
    (take : σ → Record × List UInt8 → Except Stop σ) (start : σ) (r : Record × List UInt8)
    (rs : List (Record × List UInt8)) (left : List UInt8) :
    takeRecords stop take start (r :: rs, left) =
      (take start r).bind fun next => takeRecords stop take next (rs, left) := by
  rw [takeRecords, List.foldlM_cons]
  cases take start r <;> rfl

theorem readNode_nil (levels : Nat) (node : Ast) : readNode (levels + 1) node [] = .ok node := by
  rw [readNode, records_nil]
  rfl

theorem readNode_encodeBytes (levels : Nat) (node : Ast) {field : Nat} {contents : List UInt8}
    (rest : List UInt8) (hpos : 0 < field) (hfield : field < 2 ^ 29)
    (hlen : contents.length < 2 ^ 31) :
    readNode (levels + 1) node (encodeBytes field contents ++ rest) =
      (readField (readNode levels blank) node (⟨field, .bytes contents⟩, rest)).bind fun node =>
        readNode (levels + 1) node rest := by
  rw [readNode, records_encodeBytes levels rest hpos hfield hlen, takeRecords_cons]
  rfl

/-! ### Nodes -/

/-- The text of a field after a message in which the field has the given text; an empty text is not
written and leaves the field as it was. -/
def overwrite (old new : String) : String :=
  if new = "" then old else new

/-- What is known of a node after one more message of it, which was written from a tree. -/
def absorb (node tree : Ast) : Ast :=
  .node ⟨overwrite node.label.kind tree.label.kind, overwrite node.label.name tree.label.name⟩
    (node.children ++ tree.children)

theorem overwrite_empty (s : String) : overwrite "" s = s := by
  rw [overwrite]
  split
  next h => exact h.symm
  next => rfl

theorem absorb_blank (t : Ast) : absorb blank t = t := by
  obtain ⟨⟨kind, name⟩, children⟩ := t
  rw [absorb, blank, Tree.label_node, Tree.label_node, overwrite_empty, overwrite_empty]
  rfl

theorem length_utf8_le (field : Nat) (s : String) : (utf8 s).length ≤ (encodeText field s).length := by
  rw [encodeText]
  split
  next h => rw [h]; exact Nat.zero_le _
  next => exact Nat.le_of_lt (length_encodeBytes_lt field (utf8 s))

/-- A text that was written is put into its field, the empty text into none. -/
theorem readNode_encodeText (levels : Nat) (node : Ast) {field : Nat} {s : String}
    (rest : List UInt8) (put : String → Ast) (hpos : 0 < field) (hfield : field < 2 ^ 29)
    (hlen : (encodeText field s).length < 2 ^ 31)
    (hput : readField (readNode levels blank) node (⟨field, .bytes (utf8 s)⟩, rest) = .ok (put s)) :
    readNode (levels + 1) node (encodeText field s ++ rest) =
      readNode (levels + 1) (if s = "" then node else put s) rest := by
  have hutf8 := length_utf8_le field s
  rw [encodeText]
  by_cases hs : s = ""
  · rw [if_pos hs, if_pos hs, List.nil_append]
  · rw [if_neg hs, if_neg hs, readNode_encodeBytes levels node rest hpos hfield (by omega), hput]
    rfl

theorem readNode_encodeKind (levels : Nat) (node : Ast) (s : String) (rest : List UInt8)
    (hlen : (encodeText 1 s).length < 2 ^ 31) :
    readNode (levels + 1) node (encodeText 1 s ++ rest) =
      readNode (levels + 1) (.node ⟨overwrite node.label.kind s, node.label.name⟩ node.children)
        rest := by
  rw [readNode_encodeText levels node rest (fun s => .node ⟨s, node.label.name⟩ node.children)
    (by decide) (by decide) hlen (by rw [readField, readText_utf8]; rfl), overwrite]
  by_cases hs : s = ""
  · rw [if_pos hs, if_pos hs, Tree.node_label_children]
  · rw [if_neg hs, if_neg hs]

theorem readNode_encodeName (levels : Nat) (node : Ast) (s : String) (rest : List UInt8)
    (hlen : (encodeText 2 s).length < 2 ^ 31) :
    readNode (levels + 1) node (encodeText 2 s ++ rest) =
      readNode (levels + 1) (.node ⟨node.label.kind, overwrite node.label.name s⟩ node.children)
        rest := by
  rw [readNode_encodeText levels node rest (fun s => .node ⟨node.label.kind, s⟩ node.children)
    (by decide) (by decide) hlen (by rw [readField, readText_utf8]; rfl), overwrite]
  by_cases hs : s = ""
  · rw [if_pos hs, if_pos hs, Tree.node_label_children]
  · rw [if_neg hs, if_neg hs]

/-- What is known of reading the message of a tree, with any number of levels left. -/
def IsReadBack (t : Ast) : Prop :=
  (encodeNode t).length < 2 ^ 31 → ∀ levels node,
    readNode levels node (encodeNode t) =
      if t.depth ≤ levels then .ok (absorb node t) else .error (.fault .tooDeep)

/-- The children are read one after the other, up to the first that is too deep. -/
theorem readNode_encodeChildren (levels : Nat) (node : Ast) (ts : List Ast)
    (hts : ∀ t ∈ ts, IsReadBack t) (hlen : (encodeChildren ts).length < 2 ^ 31) :
    readNode (levels + 1) node (encodeChildren ts) =
      if ∀ t ∈ ts, t.depth ≤ levels then .ok (.node node.label (node.children ++ ts))
      else .error (.fault .tooDeep) := by
  induction ts generalizing node with
  | nil =>
    rw [encodeChildren, readNode_nil, if_pos fun t ht => absurd ht List.not_mem_nil, List.append_nil,
      Tree.node_label_children]
  | cons t ts ih =>
    have hrecord := length_encodeBytes_lt 3 (encodeNode t)
    rw [encodeChildren, List.length_append] at hlen
    rw [encodeChildren, readNode_encodeBytes levels node _ (by decide) (by decide) (by omega), readField,
      hts t List.mem_cons_self (by omega)]
    by_cases ht : t.depth ≤ levels
    · have hafter := ih (.node node.label (node.children ++ [t]))
        (fun u hu => hts u (List.mem_cons_of_mem t hu)) (by omega)
      rw [Tree.label_node, Tree.children_node, List.append_assoc, List.singleton_append] at hafter
      simp only [List.forall_mem_cons, ht, true_and, if_true]
      rw [absorb_blank]
      exact hafter
    · rw [if_neg ht, if_neg fun hall => ht (hall t List.mem_cons_self)]
      rfl

/-- The message of a tree is filled into what is known of the node. -/
theorem isReadBack (t : Ast) : IsReadBack t := by
  induction t using Tree.induction with
  | node label ts ih =>
    intro hlen levels node
    cases levels with
    | zero =>
      have hdepth := Tree.depth_pos (.node label ts)
      rw [readNode, if_neg (by omega)]
    | succ levels =>
      rw [encodeNode, List.length_append, List.length_append] at hlen
      rw [encodeNode, List.append_assoc, readNode_encodeKind levels node _ _ (by omega),
        readNode_encodeName levels _ _ _ (by omega),
        readNode_encodeChildren levels _ ts ih (by omega)]
      simp only [Tree.depth_le_iff]
      rfl

/-! ### Envelopes -/

/-- The root that is known after all records of an envelope, from what is known before them. -/
def readRootFrom (known : Option Ast) (bytes : List UInt8) : Except Stop (Option Ast) :=
  takeRecords (fun _ => .fault .corrupt) readRoot known (records maxLevels bytes)

/-- The bytes of a tree are absorbed by the root that is known, unless the tree is too deep. -/
theorem readRootFrom_encode {t : Ast} (hlen : (encodeNode t).length < 2 ^ 31) (known : Option Ast) :
    readRootFrom known (encode t) =
      if t.depth ≤ maxLevels then .ok (some (absorb (known.getD blank) t))
      else .error (.fault .tooDeep) := by
  have hrecords := records_encodeBytes maxLevels [] (show 0 < 1 by decide) (by decide) hlen
  rw [List.append_nil, records_nil] at hrecords
  rw [readRootFrom, encode, hrecords, takeRecords_cons, readRoot, isReadBack t hlen]
  by_cases ht : t.depth ≤ maxLevels
  · rw [if_pos ht, if_pos ht]
    rfl
  · rw [if_neg ht, if_neg ht]
    rfl

/-- The envelope of a tree holds its message, unless the tree is too deep. -/
theorem readEnvelope_encode {t : Ast} (hlen : (encodeNode t).length < 2 ^ 31) :
    readEnvelope (encode t) =
      if t.depth ≤ maxLevels then .ok (some t) else .error (.fault .tooDeep) := by
  have hread := readRootFrom_encode hlen none
  rw [Option.getD_none, absorb_blank] at hread
  exact hread

/-- A message that was read is a tree if it has no more than the allowed levels. -/
theorem decode_of_readEnvelope {bytes : List UInt8} {t : Ast}
    (hread : readEnvelope bytes = .ok (some t)) (ht : t.depth ≤ maxLevels) :
    decode bytes = .ok (some t) := by
  rw [decode, hread]
  dsimp only [bind, Except.bind, Except.mapError]
  rw [toAst_eq, if_pos ht]

theorem decode_encode_eq {t : Ast} (hlen : (encodeNode t).length < 2 ^ 31) :
    decode (encode t) = if t.depth ≤ maxLevels then .ok (some t) else .error .tooDeep := by
  have hread := readEnvelope_encode hlen
  by_cases ht : t.depth ≤ maxLevels
  · rw [if_pos ht] at hread ⊢
    exact decode_of_readEnvelope hread ht
  · rw [if_neg ht] at hread ⊢
    rw [decode, hread]
    rfl

/-- The bytes of a tree are those of the message that is filled from it.  They are read back if the
tree has no more than the allowed levels, and refused for its depth otherwise. -/
theorem decode_encode (t : Ast) (hlen : (encodeNode t).length < 2 ^ 31) :
    encode t = encodeBytes 1 (encodeNode (fill blank t)) ∧
      (t.depth ≤ 100 → decode (encode t) = .ok (some t)) ∧
      (100 < t.depth → decode (encode t) = .error .tooDeep) := by
  refine ⟨?_, fun ht => ?_, fun ht => ?_⟩
  · rw [fill_eq_merge, merge_blank, encode]
  · rw [decode_encode_eq hlen, if_pos (show t.depth ≤ maxLevels from ht)]
  · rw [decode_encode_eq hlen, if_neg (show ¬ t.depth ≤ maxLevels from Nat.not_le.2 ht)]

/-- A tree without texts at its root is read back, and one of a hundred and one levels is refused. -/
theorem decode_encode_blank_and_nested :
    decode (encode (.node ⟨"", ""⟩ [.node ⟨"Función", ""⟩ [], .node ⟨"", "größe"⟩ []])) =
        .ok (some (.node ⟨"", ""⟩ [.node ⟨"Función", ""⟩ [], .node ⟨"", "größe"⟩ []])) ∧
      decode (encode (Nat.repeat (fun t => .node ⟨"", ""⟩ [t]) 100 blank)) = .error .tooDeep :=
  ⟨(decode_encode _ (by decide +kernel)).2.1 (by decide +kernel),
    (decode_encode _ (by decide +kernel)).2.2 (by decide +kernel)⟩

end DeclSplit.Wire
