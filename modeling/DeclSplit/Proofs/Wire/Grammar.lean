import DeclSplit.Wire.Encode
import DeclSplit.Wire.Record
import Mathlib.Algebra.Group.Nat.Defs

/-!
# How records are spelled

The spellings of numbers and records, said without a reader, and what the readers make of them.  Only a
number of the shortest form is ever written, but a reader takes any number of bytes up to a limit; only
records whose contents are preceded by their length are ever written, but a reader passes over all
others.

* `Wire.IsVarint`, `Wire.IsTag`, `Wire.IsLength` — the spellings of a number, a tag and a length;
* `Wire.IsScalar`, `Wire.InGroup` — what follows a tag, for the wire types without nesting and for groups;
* `Wire.IsDelimited` — a record whose contents are preceded by their length;
* `Wire.IsUnknown` — a record of which a message does not know the field, or not with its wire type;
* `Wire.record?_of_isDelimited`, `Wire.record?_of_isUnknown` — each spelling is read as one record, up to
  its last byte;
* `Wire.isVarint_encodeVarint`, `Wire.isDelimited_encodeBytes` — what is written is a spelling.
-/

namespace DeclSplit.Wire

/-! ### Numbers -/

/-- The spellings of a number in at most `limit` bytes: groups of seven bits, the lowest first, of which
the last may be zero. -/
inductive IsVarint : (limit n : Nat) → List UInt8 → Prop where
  | last {limit : Nat} {b : UInt8} (hb : b < 128) : IsVarint (limit + 1) b.toNat [b]
  | more {limit n : Nat} {b : UInt8} {bytes : List UInt8} (hb : ¬ b < 128)
      (h : IsVarint limit n bytes) : IsVarint (limit + 1) (b.toNat - 128 + 128 * n) (b :: bytes)

/-- The spellings of the tag of a field with a wire type. -/
def IsTag (field wireType : Nat) (bytes : List UInt8) : Prop :=
  8 * field + wireType < 2 ^ 32 ∧ IsVarint 5 (8 * field + wireType) bytes

/-- The spellings of the number of bytes of a text or a message. -/
def IsLength (n : Nat) (bytes : List UInt8) : Prop :=
  n < 2 ^ 31 ∧ IsVarint 5 n bytes

theorem varint?_of_isVarint {limit n : Nat} {bytes : List UInt8} (h : IsVarint limit n bytes)
    (rest : List UInt8) : varint? limit (bytes ++ rest) = some (n, rest) := by
  induction h with
  | last hb => rw [List.singleton_append, varint?, if_pos hb]
  | more hb h ih =>
    rw [List.cons_append, varint?, if_neg hb, ih]
    rfl

theorem tag?_of_isTag {field wireType : Nat} {bytes : List UInt8} (h : IsTag field wireType bytes)
    (rest : List UInt8) : tag? (bytes ++ rest) = some (8 * field + wireType, rest) := by
  rw [tag?, varint?_of_isVarint h.2]
  simpa using h.1

theorem length?_of_isLength {n : Nat} {bytes : List UInt8} (h : IsLength n bytes) (rest : List UInt8) :
    length? (bytes ++ rest) = some (n, rest) := by
  rw [length?, varint?_of_isVarint h.2]
  simpa using h.1

theorem toNat_ofNat_lt {n : Nat} (h : n < 256) : (UInt8.ofNat n).toNat = n := by
  rw [UInt8.toNat_ofNat', Nat.mod_eq_of_lt h]

/-- The shortest form is a spelling, if a number has few groups of seven bits. -/
theorem isVarint_encodeVarint {limit n : Nat} (h : n < 128 ^ (limit + 1)) :
    IsVarint (limit + 1) n (encodeVarint n) := by
  have hlast : ∀ {limit n : Nat}, n < 128 → IsVarint (limit + 1) n [UInt8.ofNat n] := by
    intro limit n hn
    have hb : UInt8.ofNat n < 128 := by
      rw [UInt8.lt_iff_toNat_lt, toNat_ofNat_lt (by omega)]
      exact hn
    have hspelled := @IsVarint.last limit _ hb
    rw [toNat_ofNat_lt (by omega)] at hspelled
    exact hspelled
  induction limit generalizing n with
  | zero =>
    rw [Nat.zero_add, Nat.pow_one] at h
    rw [encodeVarint, if_pos h]
    exact hlast h
  | succ limit ih =>
    rw [encodeVarint]
    by_cases hn : n < 128
    · rw [if_pos hn]
      exact hlast hn
    · have hb : ¬ UInt8.ofNat (n % 128 + 128) < 128 := by
        rw [UInt8.lt_iff_toNat_lt, toNat_ofNat_lt (by omega)]
        show ¬ n % 128 + 128 < 128
        omega
      have hrest : n / 128 < 128 ^ (limit + 1) := by
        rw [Nat.div_lt_iff_lt_mul (by omega), ← Nat.pow_succ]
        exact h
      have hspelled := IsVarint.more hb (ih hrest)
      rw [toNat_ofNat_lt (by omega), Nat.add_sub_cancel, Nat.mod_add_div] at hspelled
      rw [if_neg hn]
      exact hspelled

theorem encodeVarint_ne_nil (n : Nat) : encodeVarint n ≠ [] := by
  rw [encodeVarint]
  split <;> exact List.cons_ne_nil _ _

/-! ### Contents -/

theorem take?_left (taken rest : List UInt8) :
    take? taken.length (taken ++ rest) = some (taken, rest) := by
  rw [take?, if_pos (by rw [List.length_append]; omega), List.take_left, List.drop_left]

/-- What follows the tag of a record, for the wire types without nesting. -/
inductive IsScalar : (wireType : Nat) → List UInt8 → Prop where
  | varint {n : Nat} {bytes : List UInt8} (h : IsVarint 10 n bytes) : IsScalar 0 bytes
  | fixed64 {bytes : List UInt8} (h : bytes.length = 8) : IsScalar 1 bytes
  | bytes {length contents : List UInt8} (h : IsLength contents.length length) :
      IsScalar 2 (length ++ contents)
  | fixed32 {bytes : List UInt8} (h : bytes.length = 4) : IsScalar 5 bytes

theorem IsScalar.wireType_lt {wireType : Nat} {bytes : List UInt8} (h : IsScalar wireType bytes) :
    wireType < 8 ∧ wireType ≠ 3 ∧ wireType ≠ 4 := by
  cases h <;> decide

theorem scalar?_bytes {length contents : List UInt8} (h : IsLength contents.length length)
    (rest : List UInt8) :
    scalar? 2 (length ++ contents ++ rest) = some (.bytes contents, rest) := by
  rw [List.append_assoc]
  simp only [scalar?, length?_of_isLength h, Option.bind_eq_bind, Option.bind_some, take?_left]

/-- What follows a tag is read up to its last byte, and only the wire type of texts and messages gives
contents that are preceded by their length. -/
theorem scalar?_of_isScalar {wireType : Nat} {bytes : List UInt8} (h : IsScalar wireType bytes)
    (rest : List UInt8) :
    ∃ p, scalar? wireType (bytes ++ rest) = some (p, rest) ∧
      ∀ contents, p = .bytes contents → wireType = 2 := by
  cases h with
  | @varint n _ h => exact ⟨.varint n, by rw [scalar?, varint?_of_isVarint h]; rfl, nofun⟩
  | fixed64 h =>
    have htaken := take?_left bytes rest
    rw [h] at htaken
    exact ⟨.fixed64 bytes, by rw [scalar?, htaken]; rfl, nofun⟩
  | @bytes length contents h => exact ⟨.bytes contents, scalar?_bytes h rest, fun _ _ => rfl⟩
  | fixed32 h =>
    have htaken := take?_left bytes rest
    rw [h] at htaken
    exact ⟨.fixed32 bytes, by rw [scalar?, htaken]; rfl, nofun⟩

/-! ### Groups -/

/-- The records between the tags that begin and end a group, with at most `groups` groups open at once
inside it. -/
inductive InGroup : (groups : Nat) → List UInt8 → Prop where
  | nil {groups : Nat} : InGroup groups []
  | scalar {groups field wireType : Nat} {tag contents rest : List UInt8}
      (htag : IsTag field wireType tag) (h : IsScalar wireType contents) (hrest : InGroup groups rest) :
      InGroup groups (tag ++ (contents ++ rest))
  | group {groups field : Nat} {begins contents ends rest : List UInt8} (hbegins : IsTag field 3 begins)
      (h : InGroup groups contents) (hends : IsTag field 4 ends) (hrest : InGroup (groups + 1) rest) :
      InGroup (groups + 1) (begins ++ (contents ++ (ends ++ rest)))

/-- What the next tag makes of the groups that are open. -/
theorem skipGroups_of_tag? {limit field tag : Nat} {outer : List Nat} {bytes rest : List UInt8}
    (htag : tag? bytes = some (tag, rest)) :
    skipGroups limit (field :: outer) bytes =
      if tag % 8 = 3 then
        if (field :: outer).length < limit then skipGroups limit (tag / 8 :: field :: outer) rest
        else none
      else if tag % 8 = 4 then
        if tag / 8 = field then skipGroups limit outer rest else none
      else
        (scalar? (tag % 8) rest).bind fun (_, rest) => skipGroups limit (field :: outer) rest := by
  rw [skipGroups]
  split
  next hnone => rw [htag] at hnone; exact absurd hnone (by simp)
  next tag' rest' hsome =>
    rw [htag] at hsome
    cases hsome
    congr 2
    split
    next hnone => rw [hnone]; rfl
    next p rest' hsome => rw [hsome]; rfl

theorem skipGroups_begin {limit field inner : Nat} {outer : List Nat} {begins : List UInt8}
    (h : IsTag inner 3 begins) (hlimit : (field :: outer).length < limit) (rest : List UInt8) :
    skipGroups limit (field :: outer) (begins ++ rest) =
      skipGroups limit (inner :: field :: outer) rest := by
  rw [skipGroups_of_tag? (tag?_of_isTag h rest), if_pos (by omega), if_pos hlimit,
    show (8 * inner + 3) / 8 = inner by omega]

theorem skipGroups_end {limit field : Nat} {outer : List Nat} {ends : List UInt8}
    (h : IsTag field 4 ends) (rest : List UInt8) :
    skipGroups limit (field :: outer) (ends ++ rest) = skipGroups limit outer rest := by
  rw [skipGroups_of_tag? (tag?_of_isTag h rest), if_neg (by omega), if_pos (by omega),
    if_pos (by omega)]

theorem skipGroups_scalar {limit field number wireType : Nat} {outer : List Nat}
    {tag contents : List UInt8} (htag : IsTag number wireType tag) (h : IsScalar wireType contents)
    (rest : List UInt8) :
    skipGroups limit (field :: outer) (tag ++ (contents ++ rest)) =
      skipGroups limit (field :: outer) rest := by
  obtain ⟨hlt, hbegin, hend⟩ := h.wireType_lt
  obtain ⟨p, hp, -⟩ := scalar?_of_isScalar h rest
  rw [skipGroups_of_tag? (tag?_of_isTag htag _), if_neg (by omega), if_neg (by omega),
    show (8 * number + wireType) % 8 = wireType by omega, hp]
  rfl

/-- The contents of a group are passed over, if all groups that are open at once are within the limit. -/
theorem skipGroups_of_inGroup {groups : Nat} {contents : List UInt8} (h : InGroup groups contents)
    {limit field : Nat} {outer : List Nat} (hlimit : (field :: outer).length + groups ≤ limit)
    (rest : List UInt8) :
    skipGroups limit (field :: outer) (contents ++ rest) = skipGroups limit (field :: outer) rest := by
  induction h generalizing field outer rest with
  | nil => rfl
  | scalar htag hscalar _ ih =>
    rw [List.append_assoc, List.append_assoc, skipGroups_scalar htag hscalar, ih hlimit]
  | @group groups inner begins contents ends after hbegins _ hends _ ih ihafter =>
    have hinner : (inner :: field :: outer).length + groups ≤ limit := by
      rw [List.length_cons]
      omega
    rw [List.append_assoc, List.append_assoc, List.append_assoc, skipGroups_begin hbegins (by omega),
      ih hinner, skipGroups_end hends, ihafter hlimit]

/-! ### Records -/

/-- A record whose contents are preceded by their length. -/
def IsDelimited (field : Nat) (contents bytes : List UInt8) : Prop :=
  ∃ tag length, IsTag field 2 tag ∧ IsLength contents.length length ∧
    bytes = tag ++ (length ++ contents)

/-- A record that a message does not know: its field is none of the known ones, or it has another wire
type than these.  Inside it, and itself counted, at most `groups` groups are open at once. -/
inductive IsUnknown (known : List Nat) : (groups : Nat) → List UInt8 → Prop where
  | scalar {groups field wireType : Nat} {tag contents : List UInt8} (hpos : 0 < field)
      (hunknown : wireType = 2 → field ∉ known) (htag : IsTag field wireType tag)
      (h : IsScalar wireType contents) : IsUnknown known groups (tag ++ contents)
  | group {groups field : Nat} {begins contents ends : List UInt8} (hpos : 0 < field)
      (hbegins : IsTag field 3 begins) (h : InGroup groups contents) (hends : IsTag field 4 ends) :
      IsUnknown known (groups + 1) (begins ++ (contents ++ ends))

/-- The record that begins with a tag of a wire type without nesting. -/
theorem record?_of_scalar? {groups field wireType : Nat} {tag bytes rest : List UInt8} {p : Payload}
    (hpos : 0 < field) (htag : IsTag field wireType tag) (hlt : wireType < 8) (hgroup : wireType ≠ 3)
    (h : scalar? wireType bytes = some (p, rest)) :
    record? groups (tag ++ bytes) = some (⟨field, p⟩, rest) := by
  have hnumber : (8 * field + wireType) / 8 = field := by omega
  have htype : (8 * field + wireType) % 8 = wireType := by omega
  rw [record?, tag?_of_isTag htag, Option.bind_eq_bind, Option.bind_some]
  simp only [hnumber, htype, if_neg (Nat.ne_of_gt hpos), if_neg hgroup, h, Option.bind_eq_bind,
    Option.bind_some]

/-- The record of a group. -/
theorem record?_group {groups field : Nat} {begins contents ends : List UInt8} (hpos : 0 < field)
    (hbegins : IsTag field 3 begins) (h : InGroup groups contents) (hends : IsTag field 4 ends)
    (rest : List UInt8) :
    record? (groups + 1) (begins ++ (contents ++ (ends ++ rest))) = some (⟨field, .group⟩, rest) := by
  have hnumber : (8 * field + 3) / 8 = field := by omega
  have htype : (8 * field + 3) % 8 = 3 := by omega
  have hskip : skipGroups (groups + 1) [field] (contents ++ (ends ++ rest)) = some rest := by
    rw [skipGroups_of_inGroup h (by rw [List.length_singleton]; omega), skipGroups_end hends,
      skipGroups]
  rw [record?, tag?_of_isTag hbegins, Option.bind_eq_bind, Option.bind_some]
  simp only [hnumber, htype, if_neg (Nat.ne_of_gt hpos), if_true, if_pos (Nat.succ_pos groups), hskip,
    Option.bind_eq_bind, Option.bind_some]

/-- A record whose contents are preceded by their length is read back. -/
theorem record?_of_isDelimited {groups field : Nat} {contents bytes : List UInt8} (hpos : 0 < field)
    (h : IsDelimited field contents bytes) (rest : List UInt8) :
    record? groups (bytes ++ rest) = some (⟨field, .bytes contents⟩, rest) := by
  obtain ⟨tag, length, htag, hlength, rfl⟩ := h
  rw [List.append_assoc]
  exact record?_of_scalar? hpos htag (by decide) (by decide) (scalar?_bytes hlength rest)

/-- A record that a message does not know is read as one, up to its last byte. -/
theorem record?_of_isUnknown {known : List Nat} {groups : Nat} {bytes : List UInt8}
    (h : IsUnknown known groups bytes) (rest : List UInt8) :
    ∃ r, record? groups (bytes ++ rest) = some (r, rest) ∧
      ∀ contents, r.payload = .bytes contents → r.field ∉ known := by
  cases h with
  | @scalar _ field wireType tag contents hpos hunknown htag hscalar =>
    obtain ⟨hlt, hgroup, -⟩ := hscalar.wireType_lt
    obtain ⟨p, hp, htype⟩ := scalar?_of_isScalar hscalar rest
    rw [List.append_assoc]
    exact ⟨⟨field, p⟩, record?_of_scalar? hpos htag hlt hgroup hp,
      fun contents hcontents => hunknown (htype contents hcontents)⟩
  | @group groups field begins contents ends hpos hbegins hgroup hends =>
    rw [List.append_assoc, List.append_assoc]
    exact ⟨⟨field, .group⟩, record?_group hpos hbegins hgroup hends rest, nofun⟩

/-- What is written is a record whose contents are preceded by their length. -/
theorem isDelimited_encodeBytes {field : Nat} {contents : List UInt8} (hfield : field < 2 ^ 29)
    (hlen : contents.length < 2 ^ 31) : IsDelimited field contents (encodeBytes field contents) := by
  refine ⟨bytesTag field, encodeVarint contents.length, ⟨by omega, ?_⟩, ⟨hlen, ?_⟩, ?_⟩
  · exact isVarint_encodeVarint (by omega)
  · exact isVarint_encodeVarint (by omega)
  · rw [encodeBytes, List.append_assoc]

end DeclSplit.Wire
