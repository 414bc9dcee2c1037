import DeclSplit.Proofs.Attempts
import DeclSplit.Proofs.Wire.Levels

/-!
# Bytes after bytes

A reader that ends before the bytes do does not look at those that follow.  So what was read from some
bytes is read again when more bytes come after them, and these are read as if they came next.

* `Wire.varint?_append`, `Wire.skipGroups_append`, `Wire.record?_append` — numbers, groups and records;
* `Wire.field_cases`, `Wire.root_cases` — the records that are known in a message;
* `Wire.readNode_append`, `Wire.readRootFrom_append` — whole messages;
* `Wire.decode_eq_readRootFrom` — the tree of an envelope is what was read from it.
-/

namespace DeclSplit.Wire

/-! ### Numbers and records -/

theorem varint?_append {limit n : Nat} {bytes rest : List UInt8}
    (h : varint? limit bytes = some (n, rest)) (more : List UInt8) :
    varint? limit (bytes ++ more) = some (n, rest ++ more) := by
  induction limit generalizing n bytes with
  | zero => simp [varint?] at h
  | succ limit ih =>
    cases bytes with
    | nil => simp [varint?] at h
    | cons b bytes =>
      rw [varint?] at h
      rw [List.cons_append, varint?]
      by_cases hb : b < 128
      · rw [if_pos hb] at h ⊢
        cases h
        rfl
      · rw [if_neg hb] at h ⊢
        obtain ⟨⟨m, r⟩, hm, he⟩ := Option.map_eq_some_iff.1 h
        cases he
        rw [ih hm]
        rfl

theorem tag?_append {n : Nat} {bytes rest : List UInt8} (h : tag? bytes = some (n, rest))
    (more : List UInt8) : tag? (bytes ++ more) = some (n, rest ++ more) := by
  obtain ⟨hread, hlt⟩ := Option.filter_eq_some_iff.1 h
  rw [tag?, varint?_append hread more]
  exact Option.filter_eq_some_iff.2 ⟨rfl, hlt⟩

theorem length?_append {n : Nat} {bytes rest : List UInt8} (h : length? bytes = some (n, rest))
    (more : List UInt8) : length? (bytes ++ more) = some (n, rest ++ more) := by
  obtain ⟨hread, hlt⟩ := Option.filter_eq_some_iff.1 h
  rw [length?, varint?_append hread more]
  exact Option.filter_eq_some_iff.2 ⟨rfl, hlt⟩

theorem take?_append {count : Nat} {bytes taken rest : List UInt8}
    (h : take? count bytes = some (taken, rest)) (more : List UInt8) :
    take? count (bytes ++ more) = some (taken, rest ++ more) := by
  simp only [take?] at h
  split at h
  next hle =>
    cases h
    rw [take?, if_pos (by rw [List.length_append]; omega), List.take_append_of_le_length hle,
      List.drop_append_of_le_length hle]
  next => exact absurd h (by simp)

theorem scalar?_append {wireType : Nat} {bytes rest : List UInt8} {p : Payload}
    (h : scalar? wireType bytes = some (p, rest)) (more : List UInt8) :
    scalar? wireType (bytes ++ more) = some (p, rest ++ more) := by
  unfold scalar? at h ⊢
  split at h
  · obtain ⟨⟨n, r⟩, hn, he⟩ := Option.map_eq_some_iff.1 h
    cases he
    rw [varint?_append hn more]
    rfl
  · obtain ⟨⟨bs, r⟩, hn, he⟩ := Option.map_eq_some_iff.1 h
    cases he
    rw [take?_append hn more]
    rfl
  · simp only [bind, Option.bind_eq_some_iff, Prod.exists] at h
    obtain ⟨count, r, hcount, bs, r', hbs, he⟩ := h
    cases he
    simp only [bind, length?_append hcount more, Option.bind_some, take?_append hbs more]
  · obtain ⟨⟨bs, r⟩, hn, he⟩ := Option.map_eq_some_iff.1 h
    cases he
    rw [take?_append hn more]
    rfl
  · exact absurd h (by simp)

theorem skipGroups_append {limit : Nat} {opened : List Nat} {bytes rest : List UInt8}
    (h : skipGroups limit opened bytes = some rest) (more : List UInt8) :
    skipGroups limit opened (bytes ++ more) = some (rest ++ more) := by
  fun_induction skipGroups limit opened bytes with
  | case1 bytes =>
    cases h
    rw [skipGroups]
  | case2 | case6 | case7 => exact absurd h (by simp_all)
  | case3 bytes field outer tag after htag hstart hlt ih =>
    rw [if_pos hlt] at h
    rw [skipGroups_of_tag? (tag?_append htag more), if_pos hstart, if_pos hlt, ih h]
  | case4 bytes field outer tag after htag hstart hlimit =>
    rw [if_neg hlimit] at h
    exact absurd h (by simp)
  | case5 bytes outer tag after htag hstart hend ih =>
    rw [skipGroups_of_tag? (tag?_append htag more), if_neg hstart, if_pos hend, if_pos rfl, ih h]
  | case8 bytes field outer tag after htag hstart hend p after' hscalar ih =>
    rw [skipGroups_of_tag? (tag?_append htag more), if_neg hstart, if_neg hend,
      scalar?_append hscalar more]
    exact ih h

/-- A record is read again when bytes follow. -/
theorem record?_append {groups : Nat} {bytes rest : List UInt8} {r : Record}
    (h : record? groups bytes = some (r, rest)) (more : List UInt8) :
    record? groups (bytes ++ more) = some (r, rest ++ more) := by
  simp only [record?, bind, Option.bind_eq_some_iff, Prod.exists] at h
  obtain ⟨tag, after, htag, h⟩ := h
  simp only [record?, bind, tag?_append htag more, Option.bind_some]
  split at h
  next => exact absurd h (by simp)
  next hfield =>
    rw [if_neg hfield]
    split at h
    next hstart =>
      rw [if_pos hstart]
      split at h
      next hgroups =>
        obtain ⟨after', hskip, he⟩ := Option.bind_eq_some_iff.1 h
        cases he
        rw [if_pos hgroups, skipGroups_append hskip more]
        rfl
      next => exact absurd h (by simp)
    next hstart =>
      obtain ⟨⟨p, after'⟩, hscalar, he⟩ := Option.bind_eq_some_iff.1 h
      cases he
      rw [if_neg hstart, scalar?_append hscalar more]
      rfl

/-! ### Messages -/

variable {σ τ : Type}

/-- The records of a whole message are taken before those of the bytes that follow. -/
theorem takeRecords_append {stop : List UInt8 → Stop}
    {take : σ → Record × List UInt8 → Except Stop σ}
    (htake : ∀ s r after next more,
      take s (r, after) = .ok next → take s (r, after ++ more) = .ok next)
    {groups : Nat} {bytes : List UInt8} {start last : σ}
    (h : takeRecords stop take start (records groups bytes) = .ok last) (more : List UInt8) :
    takeRecords stop take start (records groups (bytes ++ more)) =
      takeRecords stop take last (records groups more) := by
  fun_induction records groups bytes generalizing start with
  | case1 =>
    cases h
    rfl
  | case2 b bs hnone =>
    exact absurd h (by simp [takeRecords])
  | case3 b bs r rest hrecord rs left hrest ih =>
    rw [takeRecords_cons] at h
    rw [records_of_record? (record?_append hrecord more), takeRecords_cons]
    cases htaken : take start (r, rest) with
    | error e =>
      rw [htaken] at h
      exact absurd h (by simp [Except.bind])
    | ok next =>
      rw [htaken] at h
      rw [htake _ _ _ _ more htaken]
      rw [hrest] at ih
      exact ih h

/-- A record of a node message holds a kind, a name or a child, or it is passed over. -/
theorem field_cases (r : Record) :
    (∃ contents, r = ⟨1, .bytes contents⟩) ∨ (∃ contents, r = ⟨2, .bytes contents⟩) ∨
      (∃ contents, r = ⟨3, .bytes contents⟩) ∨
      ∀ readChild node after, readField readChild node (r, after) = .ok node := by
  by_cases hknown :
      ∃ field contents, (field = 1 ∨ field = 2 ∨ field = 3) ∧ r = ⟨field, .bytes contents⟩
  · obtain ⟨field, contents, rfl | rfl | rfl, rfl⟩ := hknown
    · exact .inl ⟨contents, rfl⟩
    · exact .inr (.inl ⟨contents, rfl⟩)
    · exact .inr (.inr (.inl ⟨contents, rfl⟩))
  · refine .inr (.inr (.inr fun readChild node after => ?_))
    unfold readField
    split
    next contents _ heq => exact absurd ⟨1, contents, by simp, congrArg Prod.fst heq⟩ hknown
    next contents _ heq => exact absurd ⟨2, contents, by simp, congrArg Prod.fst heq⟩ hknown
    next contents _ heq => exact absurd ⟨3, contents, by simp, congrArg Prod.fst heq⟩ hknown
    next => rfl

/-- A record of an envelope holds the root, or it is passed over. -/
theorem root_cases (r : Record) :
    (∃ contents, r = ⟨1, .bytes contents⟩) ∨
      ∀ root after, readRoot root (r, after) = .ok root := by
  by_cases hknown : ∃ contents, r = ⟨1, .bytes contents⟩
  · exact .inl hknown
  · refine .inr fun root after => ?_
    unfold readRoot
    split
    next contents _ heq => exact absurd ⟨contents, congrArg Prod.fst heq⟩ hknown
    next => rfl

theorem readField_append {readChild : List UInt8 → Except Stop Ast} (node : Ast) (r : Record)
    (after : List UInt8) (next : Ast) (more : List UInt8)
    (h : readField readChild node (r, after) = .ok next) :
    readField readChild node (r, after ++ more) = .ok next := by
  obtain ⟨contents, rfl⟩ | ⟨contents, rfl⟩ | ⟨contents, rfl⟩ | hpassed := field_cases r
  · exact h
  · exact h
  · obtain ⟨child, hchild, hnext⟩ := bind_eq_ok.1 h
    exact bind_eq_ok.2 ⟨child, mapError_eq_ok.2 (mapError_eq_ok.1 hchild), hnext⟩
  · rw [hpassed] at h ⊢
    exact h

theorem readRoot_append (root : Option Ast) (r : Record) (after : List UInt8) (next : Option Ast)
    (more : List UInt8) (h : readRoot root (r, after) = .ok next) :
    readRoot root (r, after ++ more) = .ok next := by
  obtain ⟨contents, rfl⟩ | hpassed := root_cases r
  · obtain ⟨t, ht, hnext⟩ := bind_eq_ok.1 h
    exact bind_eq_ok.2 ⟨t, mapError_eq_ok.2 (mapError_eq_ok.1 ht), hnext⟩
  · rw [hpassed] at h ⊢
    exact h

/-- What follows a node message is read into the node as the message left it. -/
theorem readNode_append {levels : Nat} {node next : Ast} {bytes : List UInt8}
    (h : readNode levels node bytes = .ok next) (more : List UInt8) :
    readNode levels node (bytes ++ more) = readNode levels next more := by
  cases levels with
  | zero => exact absurd h (by simp [readNode])
  | succ levels =>
    rw [readNode] at h ⊢
    exact takeRecords_append readField_append h more

/-- What follows an envelope is read into the root as the envelope left it. -/
theorem readRootFrom_append {known next : Option Ast} {bytes : List UInt8}
    (h : readRootFrom known bytes = .ok next) (more : List UInt8) :
    readRootFrom known (bytes ++ more) = readRootFrom next more :=
  takeRecords_append readRoot_append h more

/-- What was read from an envelope is never refused for its levels. -/
theorem decode_eq_readRootFrom (bytes : List UInt8) :
    decode bytes = (readRootFrom none bytes).mapError Stop.error := by
  have hends := readEnvelope_ends bytes
  show decode bytes = (readEnvelope bytes).mapError Stop.error
  cases hread : readEnvelope bytes with
  | error stop =>
    rw [decode, hread]
    rfl
  | ok root =>
    cases root with
    | none =>
      rw [decode, hread]
      rfl
    | some t =>
      rw [hread] at hends
      exact decode_of_readEnvelope hread (hends t rfl)

end DeclSplit.Wire
