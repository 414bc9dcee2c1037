/-!
# Variable-length numbers

A number is written as groups of seven bits, the lowest first, one byte for each group; every byte
but the last has its high bit set.

* `Wire.encodeVarint` — the shortest form of a number;
* `Wire.varint?` — a number of at most so many bytes, shortest form or not;
* `Wire.tag?`, `Wire.length?` — the numbers that begin a record and a text, with their limits.

A reader takes the bytes that are left and returns what it read with the bytes after it; the lemmas
`…_length` say that it never returns more than it took.
-/

namespace DeclSplit.Wire

/-- The bytes of a number in their shortest form. -/
def encodeVarint (n : Nat) : List UInt8 :=
  if n < 128 then [UInt8.ofNat n] else UInt8.ofNat (n % 128 + 128) :: encodeVarint (n / 128)
termination_by n

/-- The number of the next bytes, of which it may take at most `limit`. -/
def varint? : (limit : Nat) → List UInt8 → Option (Nat × List UInt8)
  | 0, _ | _, [] => none
  | limit + 1, b :: rest =>
    if b < 128 then some (b.toNat, rest)
    else (varint? limit rest).map fun (n, rest) => (b.toNat - 128 + 128 * n, rest)

/-- A field number with a wire type: at most five bytes and thirty-two bits. -/
def tag? (bytes : List UInt8) : Option (Nat × List UInt8) :=
  (varint? 5 bytes).filter fun (n, _) => n < Nat.pow 2 32

/-- The number of bytes of a text or a message: at most five bytes and thirty-one bits. -/
def length? (bytes : List UInt8) : Option (Nat × List UInt8) :=
  (varint? 5 bytes).filter fun (n, _) => n < Nat.pow 2 31

theorem varint?_length {limit n : Nat} {bytes rest : List UInt8}
    (h : varint? limit bytes = some (n, rest)) : rest.length < bytes.length := by
  induction limit generalizing n bytes with
  | zero => simp [varint?] at h
  | succ limit ih =>
    cases bytes with
    | nil => simp [varint?] at h
    | cons b bytes =>
      rw [varint?] at h
      split at h
      · simp_all
      · obtain ⟨⟨m, r⟩, hm, he⟩ := Option.map_eq_some_iff.1 h
        cases he
        exact Nat.lt_succ_of_lt (ih hm)

theorem tag?_length {n : Nat} {bytes rest : List UInt8} (h : tag? bytes = some (n, rest)) :
    rest.length < bytes.length :=
  varint?_length (Option.filter_eq_some_iff.1 h).1

theorem length?_length {n : Nat} {bytes rest : List UInt8} (h : length? bytes = some (n, rest)) :
    rest.length < bytes.length :=
  varint?_length (Option.filter_eq_some_iff.1 h).1

example : encodeVarint 300 = [0xac, 0x02] := by decide +kernel

example : varint? 5 [0xac, 0x02, 0x07] = some (300, [0x07]) := by decide

example : varint? 5 [0xac, 0x82, 0x00] = some (300, []) := by decide

end DeclSplit.Wire
