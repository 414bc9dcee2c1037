import DeclSplit.Proofs.Output.Texts
import Mathlib.Data.List.Nodup

/-!
# The files of segments

The files of segments are in one directory and are written in order, up to the first segment whose file
cannot be written.

* `HoldsSegments` — texts stored in the numbered files of a directory, and nothing else changed;
* `SegmentsWritten` — how far segments were written;
* `writeSegments_cases` — all that writing segments does;
* `writeSegments_not_all_or_nothing` — what can be left of segments that were not written.
-/

namespace DeclSplit

open FileSystem Rendering

/-! ### Specification -/

variable {levels : Nat} {fs after : FileSystem} {directory : Path} {segments : List (Ir String)}

/-! ### The files of a plan -/

theorem areNumbered_segmentPath (directory : Path) (count : Nat) :
    AreNumbered (segmentPath directory) count := by
  intro i j hij _
  refine ⟨directory, segmentFile i, segmentFile j, isName_segmentFile i, isName_segmentFile j,
    fun hsame => ?_, rfl, rfl⟩
  have := segmentFile_injective hsame
  omega

theorem depth_le_of_hasWritten {files : List Rendering} {ts : List (Ir String)}
    (h : HasWritten directory fs files after)
    (hmem : ∀ t ∈ ts, ∃ path, ofIr levels path t ∈ files) : ∀ t ∈ ts, t.depth ≤ levels := by
  intro t ht
  obtain ⟨path, hfile⟩ := hmem t ht
  obtain ⟨contents, hcontents⟩ := h.contents _ hfile
  exact (Ir.contents_of_ofIr hcontents).1

/-- A chain of nodes below a first one. -/
def Ir.nested : (below : Nat) → Ir String
  | 0 => .node ⟨"K", "", none, ∅⟩ []
  | below + 1 => .node ⟨"K", "", none, ∅⟩ [nested below]

end DeclSplit
