import DeclSplit.Text.Split

/-!
# Parts between marks

* `Text.splitOn_eq` — the parts between the occurrences of a character are those that the library's
  splitting of lists gives, so what is known of that one holds here;
* `Text.splitOn_cons`, `Text.splitOn_append_cons`, `Text.splitOn_eq_singleton` — the parts of a text that
  is put together;
* `Text.flatten_splitOn` — the characters of the parts;
* `Text.afterLast_append_cons`, `Text.afterLast_eq_self` — the part after the last occurrence.
-/

namespace DeclSplit.Text

theorem splitOn_cons (mark c : Char) (cs : List Char) :
    splitOn mark (c :: cs) =
      if c = mark then [] :: splitOn mark cs
      else (c :: (splitOn mark cs).headD []) :: (splitOn mark cs).tail := by
  rw [splitOn]
  cases h : splitOn mark cs with
  | nil => exact absurd h (splitOn_ne_nil mark cs)
  | cons part parts => rfl

theorem splitOn_eq (mark : Char) (cs : List Char) : splitOn mark cs = cs.splitOn mark := by
  induction cs with
  | nil => rw [splitOn, List.splitOn_nil]
  | cons c cs ih =>
    rw [splitOn_cons, List.splitOn_cons_eq_if_modifyHead, ih]
    simp only [beq_iff_eq]
    cases h : cs.splitOn mark with
    | nil => exact absurd h (List.splitOn_ne_nil mark cs)
    | cons part parts => rfl

/-- The parts before and after an occurrence of the mark. -/
theorem splitOn_append_cons (mark : Char) (cs ds : List Char) :
    splitOn mark (cs ++ mark :: ds) = splitOn mark cs ++ splitOn mark ds := by
  rw [splitOn_eq, splitOn_eq, splitOn_eq, List.splitOn_append_cons_self]

theorem splitOn_eq_singleton {mark : Char} {cs : List Char} (h : mark ∉ cs) :
    splitOn mark cs = [cs] := by
  rw [splitOn_eq, List.splitOn_eq_singleton h]

/-- The parts hold all characters of the text but the marks. -/
theorem flatten_splitOn (mark : Char) (cs : List Char) :
    (splitOn mark cs).flatten = cs.filter (· ≠ mark) := by
  induction cs with
  | nil => rfl
  | cons c cs ih =>
    rw [splitOn_cons, List.filter_cons, ← ih]
    obtain ⟨part, parts, hparts⟩ := List.exists_cons_of_ne_nil (splitOn_ne_nil mark cs)
    rw [hparts]
    by_cases hc : c = mark
    · simp [hc]
    · simp [hc]

/-! ### The last part -/

theorem afterLast_eq_self {mark : Char} {cs : List Char} (h : mark ∉ cs) : afterLast mark cs = cs := by
  simp only [afterLast, splitOn_eq_singleton h, List.getLast_singleton]

theorem afterLast_append_cons {mark : Char} {last : List Char} (h : mark ∉ last) (cs : List Char) :
    afterLast mark (cs ++ mark :: last) = last := by
  simp only [afterLast, splitOn_append_cons, splitOn_eq_singleton h, List.getLast_concat]

end DeclSplit.Text
