import DeclSplit.Json.Parse
import DeclSplit.Json.Render
import Mathlib.Algebra.Group.Nat.Defs

/-!
# Reading back texts

A character is written in one of four forms: as it is, as a backslash with a letter, as the escape of
one UTF-16 unit, or as the escapes of two.  The reader takes each of them for the character.

* `Text.hexNumber?_hexDigits` — a number is read back from its digits;
* `Json.escapedChar?_unit`, `Json.escapedChar?_pair` — a character is read back from its units;
* `Json.string?_escapeChar`, `Json.string?_flatMap` — a character and a text are read back;
* `Text.IsAscii`, `Json.isAscii_renderString` — what is written is ASCII.
-/

namespace DeclSplit

/-! ### Hexadecimal digits -/

namespace Text

theorem hexValue?_hexDigit {n : Nat} (h : n < 16) : hexValue? (hexDigit n) = some n := by
  have hall : ∀ m < 16, hexValue? (hexDigit m) = some m := by decide
  exact hall n h

/-- The last digits of a number stand for what is left of it. -/
theorem hexNumber?_hexDigits (count n : Nat) :
    hexNumber? (hexDigits count n) = some (n % 16 ^ count) := by
  induction count generalizing n with
  | zero => rw [Nat.pow_zero, Nat.mod_one]; rfl
  | succ count ih =>
    have hlast : hexValue? (hexDigit (n % 16)) = some (n % 16) :=
      hexValue?_hexDigit (Nat.mod_lt n (by decide))
    have hfirst := ih (n / 16)
    rw [hexNumber?] at hfirst ⊢
    rw [hexDigits, List.foldlM_append, hfirst]
    show (hexValue? (hexDigit (n % 16))).map (16 * (n / 16 % 16 ^ count) + ·) >>= pure = _
    rw [hlast, Option.map_some, Nat.pow_succ', Nat.mod_mul, Nat.add_comm]
    rfl

/-! ### ASCII -/

/-- Whether all characters are ASCII. -/
def IsAscii (cs : List Char) : Prop :=
  ∀ c ∈ cs, c.toNat < 128

@[simp] theorem isAscii_nil : IsAscii [] := fun _ h => absurd h List.not_mem_nil

@[simp] theorem isAscii_cons {c : Char} {cs : List Char} :
    IsAscii (c :: cs) ↔ c.toNat < 128 ∧ IsAscii cs :=
  List.forall_mem_cons

@[simp] theorem isAscii_append {cs ds : List Char} :
    IsAscii (cs ++ ds) ↔ IsAscii cs ∧ IsAscii ds :=
  List.forall_mem_append

theorem toNat_hexDigit_lt {n : Nat} (h : n < 16) : (hexDigit n).toNat < 128 := by
  have hall : ∀ m < 16, (hexDigit m).toNat < 128 := by decide
  exact hall n h

theorem isAscii_hexDigits (count n : Nat) : IsAscii (hexDigits count n) := by
  induction count generalizing n with
  | zero => exact isAscii_nil
  | succ count ih =>
    rw [hexDigits, isAscii_append]
    exact ⟨ih (n / 16), isAscii_cons.2 ⟨toNat_hexDigit_lt (Nat.mod_lt n (by decide)), isAscii_nil⟩⟩

end Text

namespace Json

open Text

/-! ### UTF-16 units -/

theorem unit?_hexDigits {n : Nat} (rest : List Char) (h : n < 0x10000) :
    unit? (hexDigits 4 n ++ rest) = some (n, rest) := by
  have hfour : hexDigits 4 n = [hexDigit (n / 16 / 16 / 16 % 16), hexDigit (n / 16 / 16 % 16),
      hexDigit (n / 16 % 16), hexDigit (n % 16)] := rfl
  have hnumber := hexNumber?_hexDigits 4 n
  have hmod : n % 16 ^ 4 = n := Nat.mod_eq_of_lt (by omega)
  rw [hmod, hfour] at hnumber
  rw [hfour]
  show (hexNumber? _).map (·, rest) = _
  rw [hnumber]
  rfl

/-- A unit that is no half of a pair stands for a character. -/
theorem escapedChar?_of_unit {n : Nat} {cs rest : List Char} (hunit : unit? cs = some (n, rest))
    (hn : n < 0xd800 ∨ 0xdfff < n) : escapedChar? cs = some (.ofNat n, rest) := by
  rw [escapedChar?, hunit]
  show (if 0xd800 ≤ n ∧ n < 0xdc00 then _
    else if 0xdc00 ≤ n ∧ n < 0xe000 then none else some (Char.ofNat n, rest)) = _
  rw [if_neg (by omega), if_neg (by omega)]

/-- The two halves of a pair stand for a character. -/
theorem escapedChar?_of_pair {high low : Nat} {cs between rest : List Char}
    (hhigh : unit? cs = some (high, '\\' :: 'u' :: between)) (hlow : unit? between = some (low, rest))
    (hfirst : 0xd800 ≤ high ∧ high < 0xdc00) (hsecond : 0xdc00 ≤ low ∧ low < 0xe000) :
    escapedChar? cs =
      some (.ofNat (0x10000 + (high - 0xd800) * 0x400 + (low - 0xdc00)), rest) := by
  rw [escapedChar?, hhigh]
  simp only [Option.bind_eq_bind, Option.bind_some, if_pos hfirst, hlow, if_pos hsecond]

/-- A character of one unit is read back. -/
theorem escapedChar?_unit (c : Char) (rest : List Char) (h : c.toNat < 0x10000) :
    escapedChar? (hexDigits 4 c.toNat ++ rest) = some (c, rest) := by
  have hvalid : c.toNat < 0xd800 ∨ 0xdfff < c.toNat := by
    rcases c.valid with hlow | ⟨hhigh, -⟩
    · exact .inl hlow
    · exact .inr hhigh
  rw [escapedChar?_of_unit (unit?_hexDigits rest h) hvalid, Char.ofNat_toNat]

/-- A character of two units is read back. -/
theorem escapedChar?_pair (c : Char) (rest : List Char) (h : 0x10000 ≤ c.toNat) :
    escapedChar? (hexDigits 4 (0xd800 + (c.toNat - 0x10000) / 0x400) ++
        (escapeUnit (0xdc00 + (c.toNat - 0x10000) % 0x400) ++ rest)) = some (c, rest) := by
  have hvalid : c.toNat < 0x110000 := by
    rcases c.valid with hlow | ⟨-, hhigh⟩
    · exact Nat.lt_trans hlow (by decide)
    · exact hhigh
  have hfirst : (c.toNat - 0x10000) / 0x400 < 0x400 := by omega
  have hsecond : (c.toNat - 0x10000) % 0x400 < 0x400 := Nat.mod_lt _ (by decide)
  have hvalue : 0x10000 + (0xd800 + (c.toNat - 0x10000) / 0x400 - 0xd800) * 0x400 +
      (0xdc00 + (c.toNat - 0x10000) % 0x400 - 0xdc00) = c.toNat := by
    omega
  rw [escapeUnit, List.cons_append, List.cons_append,
    escapedChar?_of_pair (unit?_hexDigits _ (by omega)) (unit?_hexDigits rest (by omega))
      (by omega) (by omega), hvalue, Char.ofNat_toNat]

/-! ### Characters -/

/-- One more character before what is read. -/
def consChar (c : Char) (result : Option (List Char × List Char)) : Option (List Char × List Char) :=
  result.map fun (cs, rest) => (c :: cs, rest)

theorem string?_backslash {steps : Nat} {c : Char} {cs rest : List Char}
    (h : escape? cs = some (c, rest)) :
    string? (steps + 1) ('\\' :: cs) = consChar c (string? steps rest) := by
  rw [string?, h]
  show ((string? steps rest).bind fun (cs, rest) => some (c :: cs, rest)) = _
  rw [consChar, Option.map_eq_bind]
  rfl

theorem string?_plain {steps : Nat} {c : Char} (rest : List Char) (hquote : c ≠ '"')
    (hbackslash : c ≠ '\\') (hblank : ' ' ≤ c) :
    string? (steps + 1) (c :: rest) = consChar c (string? steps rest) := by
  rw [string?, if_neg (Char.not_lt.2 hblank)]
  · show ((string? steps rest).bind fun (cs, rest) => some (c :: cs, rest)) = _
    rw [consChar, Option.map_eq_bind]
    rfl
  · exact hquote
  · exact hbackslash

/-- A character is read back. -/
theorem string?_escapeChar (steps : Nat) (c : Char) (rest : List Char) :
    string? (steps + 1) (escapeChar c ++ rest) = consChar c (string? steps rest) := by
  rw [escapeChar]
  split
  next h =>
    refine string?_backslash ?_
    rcases h with rfl | rfl <;> rfl
  next hquoted =>
    split
    next h => subst h; exact string?_backslash rfl
    split
    next h => subst h; exact string?_backslash rfl
    split
    next h => subst h; exact string?_backslash rfl
    split
    next h => subst h; exact string?_backslash rfl
    split
    next h => subst h; exact string?_backslash rfl
    split
    next h => exact string?_plain rest (fun e => hquoted (.inl e)) (fun e => hquoted (.inr e)) h.1
    split
    next h => exact string?_backslash (escapedChar?_unit c rest h)
    next h =>
      rw [List.append_assoc]
      exact string?_backslash (escapedChar?_pair c rest (Nat.not_lt.1 h))

/-- A text is read back, and so is where it ends. -/
theorem string?_flatMap {steps : Nat} (cs rest : List Char) (h : cs.length < steps) :
    string? steps (cs.flatMap escapeChar ++ '"' :: rest) = some (cs, rest) := by
  induction cs generalizing steps with
  | nil =>
    obtain ⟨steps, rfl⟩ := Nat.exists_eq_add_one_of_ne_zero (by omega : steps ≠ 0)
    rfl
  | cons c cs ih =>
    rw [List.length_cons] at h
    obtain ⟨steps, rfl⟩ := Nat.exists_eq_add_one_of_ne_zero (by omega : steps ≠ 0)
    rw [List.flatMap_cons, List.append_assoc, string?_escapeChar, ih (by omega)]
    rfl

theorem escapeChar_ne_nil (c : Char) : escapeChar c ≠ [] := by
  rw [escapeChar]
  repeat' split
  all_goals exact List.cons_ne_nil _ _

theorem length_le_length_flatMap (cs : List Char) : cs.length ≤ (cs.flatMap escapeChar).length := by
  induction cs with
  | nil => exact Nat.le_refl 0
  | cons c cs ih =>
    have hc := List.length_pos_iff.2 (escapeChar_ne_nil c)
    rw [List.length_cons, List.flatMap_cons, List.length_append]
    omega

/-! ### What is written is ASCII -/

theorem isAscii_escapeUnit (n : Nat) : IsAscii (escapeUnit n) := by
  rw [escapeUnit, isAscii_cons, isAscii_cons]
  exact ⟨by decide, by decide, isAscii_hexDigits 4 n⟩

theorem isAscii_backslash {c : Char} (h : c.toNat < 128) : IsAscii ['\\', c] := by
  rw [isAscii_cons, isAscii_cons]
  exact ⟨by decide, h, isAscii_nil⟩

theorem isAscii_escapeChar (c : Char) : IsAscii (escapeChar c) := by
  rw [escapeChar]
  split
  next hc => exact isAscii_backslash (by rcases hc with rfl | rfl <;> decide)
  split
  next => exact isAscii_backslash (by decide)
  split
  next => exact isAscii_backslash (by decide)
  split
  next => exact isAscii_backslash (by decide)
  split
  next => exact isAscii_backslash (by decide)
  split
  next => exact isAscii_backslash (by decide)
  split
  next hc =>
    have hlast : c.toNat < 128 := Nat.lt_of_le_of_lt (UInt32.le_iff_toNat_le.1 hc.2) (by decide)
    exact isAscii_cons.2 ⟨hlast, isAscii_nil⟩
  split
  next => exact isAscii_escapeUnit c.toNat
  next => exact isAscii_append.2 ⟨isAscii_escapeUnit _, isAscii_escapeUnit _⟩

theorem isAscii_renderString (s : String) : IsAscii (renderString s) := by
  have hall : IsAscii (s.toList.flatMap escapeChar) := by
    intro d hd
    obtain ⟨c, -, hd⟩ := List.mem_flatMap.1 hd
    exact isAscii_escapeChar c d hd
  rw [renderString, isAscii_append, isAscii_cons, isAscii_cons]
  exact ⟨⟨by decide, hall⟩, by decide, isAscii_nil⟩

end Json

end DeclSplit
