import DeclSplit.Wire.Varint

/-!
# Records

The bytes of a message are a sequence of records.  A record begins with a tag, which gives the number
of a field and one of six wire types, and goes on as the wire type says.

* `Wire.Record` — the number of a field with its contents;
* `Wire.record?` — the next record;
* `Wire.records` — the records of a message up to the first that is not well formed, and what is left.

A group is a sequence of records between two tags of one field number; groups are skipped, and how
deep they may be nested is limited.
-/

namespace DeclSplit.Wire

/-- What a record holds.  The contents of a group are skipped. -/
inductive Payload where
  | varint (n : Nat)
  | fixed64 (bytes : List UInt8)
  | bytes (bytes : List UInt8)
  | group
  | fixed32 (bytes : List UInt8)
  deriving DecidableEq

/-- A field number with what its record holds. -/
structure Record where
  field : Nat
  payload : Payload
  deriving DecidableEq

/-- The first `count` bytes, if there are so many. -/
def take? (count : Nat) (bytes : List UInt8) : Option (List UInt8 × List UInt8) :=
  if count ≤ bytes.length then some (bytes.take count, bytes.drop count) else none

theorem take?_length {count : Nat} {bytes taken rest : List UInt8}
    (h : take? count bytes = some (taken, rest)) : rest.length ≤ bytes.length := by
  simp only [take?] at h
  split at h
  · cases h; simp
  · simp at h

/-- The contents of a record of the given wire type, for the types without nesting. -/
def scalar? (wireType : Nat) (bytes : List UInt8) : Option (Payload × List UInt8) :=
  match wireType with
  | 0 => (varint? 10 bytes).map fun (n, rest) => (.varint n, rest)
  | 1 => (take? 8 bytes).map fun (bs, rest) => (.fixed64 bs, rest)
  | 2 => do
    let (count, rest) ← length? bytes
    let (bs, rest) ← take? count rest
    some (.bytes bs, rest)
  | 5 => (take? 4 bytes).map fun (bs, rest) => (.fixed32 bs, rest)
  | _ => none

theorem scalar?_length {wireType : Nat} {bytes rest : List UInt8} {p : Payload}
    (h : scalar? wireType bytes = some (p, rest)) : rest.length ≤ bytes.length := by
  unfold scalar? at h
  split at h
  · obtain ⟨⟨n, r⟩, hn, he⟩ := Option.map_eq_some_iff.1 h
    have := varint?_length hn
    simp_all; omega
  · obtain ⟨⟨n, r⟩, hn, he⟩ := Option.map_eq_some_iff.1 h
    have := take?_length hn
    simp_all
  · simp only [bind, Option.bind_eq_some_iff, Prod.exists] at h
    obtain ⟨count, r, hr, bs, r', hr', he⟩ := h
    have := length?_length hr
    have := take?_length hr'
    simp_all; omega
  · obtain ⟨⟨n, r⟩, hn, he⟩ := Option.map_eq_some_iff.1 h
    have := take?_length hn
    simp_all
  · simp at h

/-- The bytes after the end of the groups that are open, innermost first, of which there may be at
most `limit` at once.  A group ends with a tag of its own number; inside a group a field may have the
number zero. -/
def skipGroups (limit : Nat) (opened : List Nat) (bytes : List UInt8) : Option (List UInt8) :=
  match opened with
  | [] => some bytes
  | field :: outer =>
    match _h : tag? bytes with
    | none => none
    | some (tag, rest) =>
      if tag % 8 = 3 then
        if opened.length < limit then skipGroups limit (tag / 8 :: opened) rest else none
      else if tag % 8 = 4 then
        if tag / 8 = field then skipGroups limit outer rest else none
      else
        match _h' : scalar? (tag % 8) rest with
        | none => none
        | some (_, rest') => skipGroups limit opened rest'
termination_by bytes.length
decreasing_by
  · exact tag?_length _h
  · exact tag?_length _h
  · exact Nat.lt_of_le_of_lt (scalar?_length _h') (tag?_length _h)

theorem skipGroups_length {limit : Nat} {opened : List Nat} {bytes rest : List UInt8}
    (h : skipGroups limit opened bytes = some rest) : rest.length ≤ bytes.length := by
  fun_induction skipGroups limit opened bytes with
  | case1 => simp_all
  | case2 | case6 | case7 => simp_all
  | case4 => simp_all; omega
  | case3 =>
    rename_i ht _ _ ih
    have := tag?_length ht
    have := ih (by simp_all)
    omega
  | case5 =>
    rename_i ht _ _ ih
    have := tag?_length ht
    have := ih h
    omega
  | case8 =>
    rename_i ht _ _ _ _ hs ih
    have := tag?_length ht
    have := scalar?_length hs
    have := ih h
    omega

/-- The next record; groups may be nested `groups` deep. -/
def record? (groups : Nat) (bytes : List UInt8) : Option (Record × List UInt8) := do
  let (tag, rest) ← tag? bytes
  if tag / 8 = 0 then none
  else if tag % 8 = 3 then
    if 0 < groups then
      let rest ← skipGroups groups [tag / 8] rest
      some (⟨tag / 8, .group⟩, rest)
    else none
  else
    let (payload, rest) ← scalar? (tag % 8) rest
    some (⟨tag / 8, payload⟩, rest)

theorem record?_length {groups : Nat} {bytes rest : List UInt8} {r : Record}
    (h : record? groups bytes = some (r, rest)) : rest.length < bytes.length := by
  simp only [record?, bind, Option.bind_eq_some_iff, Prod.exists] at h
  obtain ⟨tag, after, ht, h⟩ := h
  have := tag?_length ht
  split at h
  · simp at h
  · split at h
    · split at h
      · obtain ⟨after', hs, he⟩ := Option.bind_eq_some_iff.1 h
        have := skipGroups_length hs
        simp_all; omega
      · simp at h
    · obtain ⟨⟨p, after'⟩, hs, he⟩ := Option.bind_eq_some_iff.1 h
      have := scalar?_length hs
      simp_all; omega

/-- The records of the bytes, each with the bytes after it, up to the first that is not well formed;
then what is left from there on, which is nothing if all are well formed. -/
def records (groups : Nat) (bytes : List UInt8) : List (Record × List UInt8) × List UInt8 :=
  match bytes with
  | [] => ([], [])
  | b :: bs =>
    match _h : record? groups (b :: bs) with
    | none => ([], b :: bs)
    | some (r, rest) =>
      let (rs, left) := records groups rest
      ((r, rest) :: rs, left)
termination_by bytes.length
decreasing_by exact record?_length _h

end DeclSplit.Wire
