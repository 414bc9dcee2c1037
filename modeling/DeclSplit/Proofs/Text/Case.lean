import DeclSplit.Text.Case
import Mathlib

/-!
# Letter case of the letters from A to Z

The tables of letter case begin with these letters or behind them, so on capitals from A to Z they agree
with the case mappings of ASCII characters.

* `Text.toTitle_of_isUpper`, `Text.toLower_of_isUpper` — the title case and the lower case of a capital;
* `Text.capitalize_of_isUpper` — a word of capitals keeps the first one, and the others become small;
* `Text.map_toUpper_capitalize` — such a word is known from what becomes of it.
-/

namespace DeclSplit.Text

variable {c : Char}

theorem isUpper_iff : c.isUpper = true ↔ 65 ≤ c.toNat ∧ c.toNat ≤ 90 := by
  simp [Char.isUpper, UInt32.le_iff_toNat_le]

/-- The tables of title case begin behind the capitals. -/
theorem toTitle_of_isUpper (h : c.isUpper = true) : toTitle c = [c] := by
  obtain ⟨-, hlast⟩ := isUpper_iff.1 h
  have hexpansions : titleExpansions.lookup c.toNat = none := by
    have hkeys : ∀ entry ∈ titleExpansions, 90 < entry.1 := by decide
    rw [List.lookup_eq_none_iff]
    intro entry hentry
    have hkey := hkeys entry hentry
    exact bne_iff_ne.2 (by omega)
  have hruns : CaseRun.apply c.toNat titleRuns = c.toNat := by
    have hfirst : c.toNat < 0x61 := by omega
    rw [titleRuns, CaseRun.apply, if_pos hfirst]
  rw [toTitle, hexpansions, hruns, Char.ofNat_toNat]

/-- The table of lower case begins with the capitals, and neither of the characters with a rule of their
own is one of them. -/
theorem toLower_of_isUpper (h : c.isUpper = true) (before after : List Char) :
    toLower before c after = [c.toLower] := by
  obtain ⟨hfirst, hlast⟩ := isUpper_iff.1 h
  have hsigma : c ≠ 'Σ' := by
    rintro rfl
    exact absurd h (by decide)
  have hdot : c ≠ 'İ' := by
    rintro rfl
    exact absurd h (by decide)
  have hruns : CaseRun.apply c.toNat lowerRuns = c.toNat + 32 := by
    have hnot : ¬c.toNat < 0x41 := by omega
    have hrun : (decide (c.toNat ≤ 0x5a) && (c.toNat - 0x41) % 1 == 0) = true := by
      rw [decide_eq_true hlast, Nat.mod_one]
      rfl
    rw [lowerRuns, CaseRun.apply, if_neg hnot, if_pos hrun]
    rfl
  rw [toLower, if_neg hsigma, if_neg hdot, hruns, Char.toLower_eq_of_isUpper h]

theorem lowerAfter_of_isUpper {cs : List Char} (h : ∀ c ∈ cs, c.isUpper = true) (before : List Char) :
    lowerAfter before cs = cs.map Char.toLower := by
  induction cs generalizing before with
  | nil => rfl
  | cons c cs ih =>
    rw [List.forall_mem_cons] at h
    rw [lowerAfter, toLower_of_isUpper h.1, ih h.2, List.singleton_append, List.map_cons]

/-- A word of capitals keeps the first one, and the others become small. -/
theorem capitalize_of_isUpper {cs : List Char} (h : ∀ d ∈ c :: cs, d.isUpper = true) :
    capitalize (c :: cs) = c :: cs.map Char.toLower := by
  rw [List.forall_mem_cons] at h
  rw [capitalize, toTitle_of_isUpper h.1, lowerAfter_of_isUpper h.2, List.singleton_append]

theorem toUpper_of_isUpper (h : c.isUpper = true) : c.toUpper = c :=
  Char.toUpper_eq_of_not_isLower (Char.not_isLower_of_isUpper h)

/-- A word of capitals is known from what becomes of it. -/
theorem map_toUpper_capitalize {cs : List Char} (h : ∀ d ∈ cs, d.isUpper = true) :
    (capitalize cs).map Char.toUpper = cs := by
  cases cs with
  | nil => rfl
  | cons c cs =>
    have hback : ∀ d ∈ cs, (Char.toUpper ∘ Char.toLower) d = d := fun d hd => by
      rw [Function.comp_apply, Char.toUpper_toLower_eq_toUpper,
        toUpper_of_isUpper (h d (List.mem_cons_of_mem c hd))]
    rw [capitalize_of_isUpper h, List.map_cons, toUpper_of_isUpper (h c List.mem_cons_self), List.map_map,
      List.map_congr_left hback, List.map_id']

end DeclSplit.Text
