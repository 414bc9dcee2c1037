import DeclSplit.Proofs.Ir.Document
import DeclSplit.Proofs.Output
import DeclSplit.Proofs.Wire.RoundTrip

/-!
# Reading back files

The file of a tree of the intermediate representation holds an ASCII text, from which the tree is
read back.  So no two trees have the same file.

* `asciiBytes_eq` — the bytes of an ASCII text are those of the text in UTF-8;
* `Ir.text` — the text of a tree;
* `Ir.text_readBack` — the tree is read back from its text, and the text from its file.
-/

namespace DeclSplit

open Text

/-! ### Bytes -/

theorem utf8EncodeChar_of_ascii {c : Char} (h : c.toNat < 128) :
    String.utf8EncodeChar c = [UInt8.ofNat c.toNat] := by
  have hval : c.val ≤ 127 := UInt32.le_iff_toNat_le.2 (Nat.le_of_lt_succ h)
  rw [String.utf8EncodeChar_eq_singleton (Char.utf8Size_eq_one_iff.2 hval)]
  rfl

/-- The bytes of an ASCII text are those of the text in UTF-8. -/
theorem asciiBytes_eq {text : List Char} (h : IsAscii text) :
    asciiBytes text = Wire.utf8 (.ofList text) := by
  have hchars : text.flatMap String.utf8EncodeChar = asciiBytes text := by
    induction text with
    | nil => rfl
    | cons c text ih =>
      rw [isAscii_cons] at h
      rw [List.flatMap_cons, utf8EncodeChar_of_ascii h.1, ih h.2]
      rfl
  rw [Wire.utf8, String.toByteArray_ofList, List.utf8Encode, hchars, List.data_toByteArray]

theorem text?_asciiBytes {text : List Char} (h : IsAscii text) :
    Wire.text? (asciiBytes text) = some (.ofList text) := by
  rw [asciiBytes_eq h, Wire.text?_utf8]

/-! ### Texts of trees -/

namespace Ir

/-- The text of a tree, which is written if the tree is not too deep. -/
def text (t : Ir String) : List Char :=
  (t.toJson Json.str).render

theorem isAscii_text (t : Ir String) : IsAscii t.text :=
  Json.isAscii_render (isPlain_toJson t)

theorem parse?_text (t : Ir String) : Json.parse? t.text = some (t.toJson Json.str) :=
  Json.parse?_render (isPlain_toJson t)

/-- No two trees have the same text. -/
theorem text_injective : Function.Injective text := by
  intro t u h
  have hjson : some (t.toJson Json.str) = some (u.toJson Json.str) := by
    rw [← parse?_text, ← parse?_text, h]
  exact toJson_str_injective (Option.some.inj hjson)

/-! ### Files of trees -/

/-- A file of a tree has the text of the tree as its contents, unless the tree is too deep. -/
theorem contents?_ofIr (levels : Nat) (path : Path) (t : Ir String) :
    (Rendering.ofIr levels path t).contents? =
      if t.depth ≤ levels then some (asciiBytes t.text) else none := by
  rw [Rendering.ofIr, Rendering.contents?, render?]
  by_cases h : t.depth ≤ levels
  · rw [if_pos h, if_pos h]
    rfl
  · rw [if_neg h, if_neg h]
    rfl

theorem contents_of_ofIr {levels : Nat} {path : Path} {t : Ir String} {contents : List UInt8}
    (h : (Rendering.ofIr levels path t).contents? = some contents) :
    t.depth ≤ levels ∧ contents = asciiBytes t.text := by
  rw [contents?_ofIr, Option.ite_none_right_eq_some] at h
  exact ⟨h.1, (Option.some.inj h.2).symm⟩

/-- A file of a tree that was written holds the text of the tree, unless its path leads to a device. -/
theorem holds_of_write {levels : Nat} {t : Ir String} {path : Path} {fs fs' : FileSystem}
    (h : (Rendering.ofIr levels path t).write fs = (fs', none)) :
    fs'.Holds path.toString (asciiBytes t.text) ∨
      ∃ output, fs'.find path.toString = .ok (.device output) := by
  rcases (Rendering.ofIr levels path t).write_cases path fs with ⟨e, -, hwrite⟩ |
    ⟨after, hafter, hwrite⟩ | ⟨after, _, _, _, _, _, -, -, -, -, hwrite⟩
  · rw [hwrite] at h
    exact nomatch (Prod.mk.inj h).2
  · rw [hwrite] at h
    obtain rfl := (Prod.mk.inj h).1
    refine (hafter.sink _ (List.mem_singleton_self _)).imp_left ?_
    rintro ⟨id, hfile⟩
    obtain ⟨contents, hcontents⟩ := hafter.contents _ (List.mem_singleton_self _)
    obtain rfl := (contents_of_ofIr hcontents).2
    exact ⟨id, hfile, hafter.bytes_eq [] hcontents hfile nofun⟩
  · rw [hwrite] at h
    exact nomatch (Prod.mk.inj h).2

/-- The text of a tree is ASCII.  A reader finds in it the object of the tree and in the object the
tree itself, if it gets so deep, so no other tree has the text.  A file of the tree that was written
holds the text, which is then read from it, unless the path leads to a device. -/
theorem text_readBack (t : Ir String) :
    IsAscii t.text ∧
      Json.parse? t.text = some (t.toJson Json.str) ∧
      (∀ levels, t.depth ≤ levels →
        ofJson levels (t.toJson Json.str) = .ok (Workspace.ofTexts t)) ∧
      (∀ u : Ir String, u.text = t.text → u = t) ∧
      ∀ levels path fs fs', (Rendering.ofIr levels path t).write fs = (fs', none) →
        ((fs'.Holds path.toString (asciiBytes t.text) ∧
            (fs'.ask .read path.toString = .ok () →
              fs'.readFile path.toString = .ok (asciiBytes t.text))) ∨
          ∃ output, fs'.find path.toString = .ok (.device output)) ∧
        Wire.text? (asciiBytes t.text) = some (.ofList t.text) := by
  refine ⟨isAscii_text t, parse?_text t, fun levels => ofJson_toJson, fun u h => text_injective h, ?_⟩
  intro levels path fs fs' h
  refine ⟨(holds_of_write h).imp_left fun hholds => ⟨hholds, fun hread => hholds.readFile hread⟩, ?_⟩
  exact text?_asciiBytes (isAscii_text t)

end Ir

end DeclSplit
