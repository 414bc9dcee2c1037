import DeclSplit.Proofs.Wire.RoundTrip

/-!
# No two trees have the same bytes

Bytes fall into the records that were written in one way only, and the records of a node tell by their
fields what is its kind, its name and a child.  So the bytes of a tree are those of no other tree,
however deep it is and however long its records are.  The reader of trees has limits on both and is of
no use here; only the reader of numbers is, whose limit is an argument.

* `Wire.encodeVarint_append_inj`, `Wire.encodeBytes_append_inj` — no number and no record begins with
  another one;
* `Wire.encodeFields_injective` — the records are known from their bytes;
* `Wire.fieldsOf`, `Wire.contentsOf` — the records of a node, and the contents of one field in them;
* `Wire.encode_inj` — a tree is known from its bytes.
-/

namespace DeclSplit.Wire

/-! ### Numbers and records -/

/-- No number begins with the form of another one. -/
theorem encodeVarint_append_inj {m n : Nat} {rest rest' : List UInt8}
    (h : encodeVarint m ++ rest = encodeVarint n ++ rest') : m = n ∧ rest = rest' := by
  -- a reader with a limit high enough for both finds the number and what follows
  have hread : ∀ k ≤ m + n, ∀ rest, varint? (m + n + 1) (encodeVarint k ++ rest) = some (k, rest) := by
    intro k hk rest
    have hpow : m + n + 1 < 128 ^ (m + n + 1) := Nat.lt_pow_self (by decide)
    exact varint?_of_isVarint (isVarint_encodeVarint (by omega)) rest
  have hsame : some (m, rest) = some (n, rest') := by
    rw [← hread m (Nat.le_add_right m n), h, hread n (Nat.le_add_left n m)]
  exact Prod.mk.inj (Option.some.inj hsame)

/-- No record begins with another one. -/
theorem encodeBytes_append_inj {field field' : Nat} {contents contents' rest rest' : List UInt8}
    (h : encodeBytes field contents ++ rest = encodeBytes field' contents' ++ rest') :
    field = field' ∧ contents = contents' ∧ rest = rest' := by
  simp only [encodeBytes, bytesTag, List.append_assoc] at h
  obtain ⟨htag, h⟩ := encodeVarint_append_inj h
  obtain ⟨hlength, h⟩ := encodeVarint_append_inj h
  obtain ⟨hcontents, hrest⟩ := List.append_inj h hlength
  exact ⟨by omega, hcontents, hrest⟩

/-- The bytes of some records whose contents are preceded by their length. -/
def encodeFields (fields : List (Nat × List UInt8)) : List UInt8 :=
  fields.flatMap fun (field, contents) => encodeBytes field contents

theorem encodeFields_cons (field : Nat) (contents : List UInt8) (fields : List (Nat × List UInt8)) :
    encodeFields ((field, contents) :: fields) = encodeBytes field contents ++ encodeFields fields :=
  List.flatMap_cons

theorem encodeFields_append (fields fields' : List (Nat × List UInt8)) :
    encodeFields (fields ++ fields') = encodeFields fields ++ encodeFields fields' :=
  List.flatMap_append

theorem encodeFields_cons_ne_nil (first : Nat × List UInt8) (fields : List (Nat × List UInt8)) :
    encodeFields (first :: fields) ≠ [] := by
  have hlength := length_encodeBytes_lt first.1 first.2
  rw [encodeFields_cons]
  exact List.append_ne_nil_of_left_ne_nil (List.ne_nil_of_length_pos (by omega)) _

/-- The records are known from their bytes. -/
theorem encodeFields_injective : Function.Injective encodeFields := by
  intro fields
  induction fields with
  | nil =>
    intro fields' h
    cases fields' with
    | nil => rfl
    | cons first' fields' => exact absurd h.symm (encodeFields_cons_ne_nil first' fields')
  | cons first fields ih =>
    intro fields' h
    cases fields' with
    | nil => exact absurd h (encodeFields_cons_ne_nil first fields)
    | cons first' fields' =>
      obtain ⟨field, contents⟩ := first
      obtain ⟨field', contents'⟩ := first'
      rw [encodeFields_cons, encodeFields_cons] at h
      obtain ⟨rfl, rfl, hrest⟩ := encodeBytes_append_inj h
      rw [ih hrest]

/-! ### The records of a node -/

/-- What is written of a text, nothing for the empty text. -/
def textContents (s : String) : List (List UInt8) :=
  if s = "" then [] else [utf8 s]

/-- The records of one field. -/
def fieldRecords (field : Nat) (contents : List (List UInt8)) : List (Nat × List UInt8) :=
  contents.map fun bytes => (field, bytes)

/-- The records of a node. -/
def fieldsOf (t : Ast) : List (Nat × List UInt8) :=
  fieldRecords 1 (textContents t.label.kind) ++
    (fieldRecords 2 (textContents t.label.name) ++ fieldRecords 3 (t.children.map encodeNode))

theorem encodeFields_textContents (field : Nat) (s : String) :
    encodeFields (fieldRecords field (textContents s)) = encodeText field s := by
  rw [textContents, encodeText]
  by_cases hs : s = ""
  · rw [if_pos hs, if_pos hs]
    rfl
  · rw [if_neg hs, if_neg hs]
    exact List.flatMap_singleton ..

theorem encodeFields_children (ts : List Ast) :
    encodeFields (fieldRecords 3 (ts.map encodeNode)) = encodeChildren ts := by
  induction ts with
  | nil => rw [encodeChildren]; rfl
  | cons t ts ih =>
    rw [encodeChildren, ← ih]
    exact encodeFields_cons ..

/-- The message of a node is made of its records. -/
theorem encodeNode_eq_encodeFields (t : Ast) : encodeNode t = encodeFields (fieldsOf t) := by
  obtain ⟨label, children⟩ := t
  rw [encodeNode, fieldsOf, encodeFields_append, encodeFields_append, encodeFields_textContents,
    encodeFields_textContents, Tree.children_node, encodeFields_children, Tree.label_node,
    List.append_assoc]

/-- The contents of the records of one field, in order. -/
def contentsOf (field : Nat) (fields : List (Nat × List UInt8)) : List (List UInt8) :=
  (fields.filter fun record => record.1 = field).map Prod.snd

theorem contentsOf_append (field : Nat) (fields fields' : List (Nat × List UInt8)) :
    contentsOf field (fields ++ fields') = contentsOf field fields ++ contentsOf field fields' := by
  rw [contentsOf, List.filter_append, List.map_append]
  rfl

theorem contentsOf_fieldRecords (field number : Nat) (contents : List (List UInt8)) :
    contentsOf field (fieldRecords number contents) = if number = field then contents else [] := by
  simp only [contentsOf, fieldRecords, List.filter_map, List.map_map, Function.comp_def]
  by_cases h : number = field
  · rw [if_pos h, List.filter_eq_self.2 fun _ _ => decide_eq_true h, List.map_id']
  · rw [if_neg h, List.filter_eq_nil_iff.2 fun _ _ => by simpa using h, List.map_nil]

/-- What each field of a node holds. -/
theorem contentsOf_fieldsOf (t : Ast) (field : Nat) :
    contentsOf field (fieldsOf t) =
      (if 1 = field then textContents t.label.kind else []) ++
        ((if 2 = field then textContents t.label.name else []) ++
          if 3 = field then t.children.map encodeNode else []) := by
  simp only [fieldsOf, contentsOf_append, contentsOf_fieldRecords]

theorem utf8_injective : Function.Injective utf8 := by
  intro s s' h
  have htext : text? (utf8 s) = text? (utf8 s') := by rw [h]
  rw [text?_utf8, text?_utf8] at htext
  exact Option.some.inj htext

/-- A text is known from what is written of it, the empty text from that nothing is. -/
theorem textContents_injective : Function.Injective textContents := by
  intro s s' h
  rw [textContents, textContents] at h
  by_cases hs : s = ""
  · by_cases hs' : s' = ""
    · rw [hs, hs']
    · rw [if_pos hs, if_neg hs'] at h
      exact absurd h.symm (List.cons_ne_nil _ _)
  · by_cases hs' : s' = ""
    · rw [if_neg hs, if_pos hs'] at h
      exact absurd h (List.cons_ne_nil _ _)
    · rw [if_neg hs, if_neg hs'] at h
      exact utf8_injective (List.singleton_inj.1 h)

/-! ### Trees -/

/-- A tree is known from the bytes of its message. -/
theorem encodeNode_injective : Function.Injective encodeNode := by
  intro t
  induction t using Tree.induction with
  | node label ts ih =>
    rintro ⟨label', us⟩ h
    rw [encodeNode_eq_encodeFields, encodeNode_eq_encodeFields] at h
    -- the records agree, and so do those of each field taken by themselves
    have hcontents : ∀ field, contentsOf field (fieldsOf (.node label ts)) =
        contentsOf field (fieldsOf (.node label' us)) := fun field => by
      rw [encodeFields_injective h]
    simp only [contentsOf_fieldsOf, Tree.label_node, Tree.children_node] at hcontents
    have hkind : textContents label.kind = textContents label'.kind := by simpa using hcontents 1
    have hname : textContents label.name = textContents label'.name := by simpa using hcontents 2
    have hchildren : ts.map encodeNode = us.map encodeNode := by simpa using hcontents 3
    have hlabel : label = label' := by
      cases label
      cases label'
      rw [Ast.Label.mk.injEq]
      exact ⟨textContents_injective hkind, textContents_injective hname⟩
    rw [hlabel, Tree.forest_eq_of_map_eq (fun t ht u hu => ih t ht hu) hchildren]

/-- The bytes of a tree are those of the message that is filled from it, and they are the bytes of no
other tree. -/
theorem encode_inj (s t : Ast) :
    encode s = encodeBytes 1 (encodeNode (fill blank s)) ∧ (encode s = encode t ↔ s = t) := by
  refine ⟨?_, fun h => ?_, fun h => by rw [h]⟩
  · rw [fill_eq_merge, merge_blank, encode]
  · have hrecord : encodeBytes 1 (encodeNode s) ++ [] = encodeBytes 1 (encodeNode t) ++ [] := by
      rw [List.append_nil, List.append_nil]
      exact h
    obtain ⟨-, hcontents, -⟩ := encodeBytes_append_inj hrecord
    exact encodeNode_injective hcontents

end DeclSplit.Wire
