import DeclSplit.Proofs.Wire.Grammar

/-!
# Records one after the other

* `Wire.record?_encodeBytes` — a record that was written is read back, with the bytes that follow;
* `Wire.records_of_record?`, `Wire.records_of_record?_eq_none` — the records of bytes, by what they begin
  with;
* `Wire.records_encodeBytes` — a record that was written before the records of other bytes.
-/

namespace DeclSplit.Wire

/-- A record whose contents are preceded by their length is read back. -/
theorem record?_encodeBytes (groups : Nat) {field : Nat} {contents : List UInt8} (rest : List UInt8)
    (hpos : 0 < field) (hfield : field < 2 ^ 29) (hlen : contents.length < 2 ^ 31) :
    record? groups (encodeBytes field contents ++ rest) = some (⟨field, .bytes contents⟩, rest) :=
  record?_of_isDelimited hpos (isDelimited_encodeBytes hfield hlen) rest

theorem records_nil (groups : Nat) : records groups [] = ([], []) := by
  rw [records]

/-- The records of bytes that begin with a record. -/
theorem records_of_record? {groups : Nat} {bytes rest : List UInt8} {r : Record}
    (h : record? groups bytes = some (r, rest)) :
    records groups bytes =
      ((r, rest) :: (records groups rest).1, (records groups rest).2) := by
  cases bytes with
  | nil => exact absurd (record?_length h) (Nat.not_lt_zero _)
  | cons b bs =>
    rw [records]
    split
    next hnone => rw [h] at hnone; exact absurd hnone (by simp)
    next r' rest' hsome =>
      rw [h] at hsome
      cases hsome
      rfl

/-- Bytes that do not begin with a record hold none. -/
theorem records_of_record?_eq_none {groups : Nat} {bytes : List UInt8}
    (h : record? groups bytes = none) : records groups bytes = ([], bytes) := by
  cases bytes with
  | nil => exact records_nil groups
  | cons b bs =>
    rw [records]
    split
    next => rfl
    next r' rest' hsome =>
      rw [h] at hsome
      exact absurd hsome (by simp)

/-- A record before the records of other bytes. -/
theorem records_encodeBytes (groups : Nat) {field : Nat} {contents : List UInt8} (rest : List UInt8)
    (hpos : 0 < field) (hfield : field < 2 ^ 29) (hlen : contents.length < 2 ^ 31) :
    records groups (encodeBytes field contents ++ rest) =
      ((⟨field, .bytes contents⟩, rest) :: (records groups rest).1, (records groups rest).2) :=
  records_of_record? (record?_encodeBytes groups rest hpos hfield hlen)

theorem length_encodeBytes_lt (field : Nat) (contents : List UInt8) :
    contents.length < (encodeBytes field contents).length := by
  have htag : 0 < (bytesTag field).length := List.length_pos_iff.2 (encodeVarint_ne_nil _)
  rw [encodeBytes, List.length_append, List.length_append]
  omega

end DeclSplit.Wire
