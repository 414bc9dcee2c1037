import DeclSplit.Proofs.Ir.Text

/-!
# Texts in files of their own

Texts are written in order to files with numbered paths.  A file that several paths lead to holds what
was written to it last, and paths of different names lead to one file only by a link or by a further
name of the file.

* `HoldsTexts` — files in which texts were written;
* `HasWritten.holdsTexts` — the last files of a plan are such files;
* `HoldsTexts.of_plain` — files with plain paths are different ones and hold their texts;
* `HasWritten.isPlain`, `HasWritten.fileAt?_ne` — without links, devices and further names of files all
  paths are plain, and those of different names in one directory lead to different files.
-/

namespace DeclSplit

open FileSystem

/-- The contents of the file of a tree: its text. -/
def Ir.bytes (t : Ir String) : List UInt8 :=
  asciiBytes t.text

/-- Texts that were written in order to the files with the given paths.  Each path leads to a file or to
a device, and a file holds the last text that was written to it.  Two paths lead to one file only if
one of them ends in a link or the file had more than one name before. -/
structure HoldsTexts (before : FileSystem) (paths : Nat → Path) (texts : List (List UInt8))
    (after : FileSystem) : Prop where
  sink : ∀ i, i < texts.length → after.IsSink (paths i).toString
  bytes : ∀ i text id, texts[i]? = some text → after.fileAt? (paths i).toString = some id →
    (∀ j, i < j → j < texts.length → after.fileAt? (paths j).toString ≠ some id) →
      after.bytes id = text
  shared : ∀ i j id, i < j → j < texts.length → after.fileAt? (paths i).toString = some id →
    after.fileAt? (paths j).toString = some id → after.IsDirect (paths i).toString →
      after.IsDirect (paths j).toString → before.IsShared id

/-- A path that ends in no link and leads to a file that had no more than one name before. -/
def FileSystem.IsPlain (before after : FileSystem) (path : Path) : Prop :=
  after.IsDirect path.toString ∧ ∃ id, after.fileAt? path.toString = some id ∧ ¬ before.IsShared id

/-- Paths of files of different names in one directory. -/
def AreNumbered (paths : Nat → Path) (count : Nat) : Prop :=
  ∀ i j, i < j → j < count → ∃ (directory : Path) (name other : String),
    Path.IsName name ∧ Path.IsName other ∧ name ≠ other ∧
      paths i = directory.join (.ofString name) ∧ paths j = directory.join (.ofString other)

variable {directory : Path} {before after : FileSystem} {paths : Nat → Path}
  {texts : List (List UInt8)}

/-- The last files of a plan hold their texts. -/
theorem HasWritten.holdsTexts (first later : List Rendering)
    (h : HasWritten directory before (first ++ later) after) (hlength : later.length = texts.length)
    (hpaths : AreNumbered paths texts.length)
    (hlater : ∀ i file, later[i]? = some file →
      file.path = paths i ∧ file.contents? = texts[i]?) :
    HoldsTexts before paths texts after := by
  have hget : ∀ i, i < texts.length → ∃ file, later[i]? = some file ∧ file ∈ later := by
    intro i hi
    rw [← hlength] at hi
    exact ⟨later[i], List.getElem?_eq_getElem hi, List.getElem_mem hi⟩
  refine ⟨fun i hi => ?sink, fun i text id htext hid hnext => ?bytes, ?shared⟩
  case sink =>
    obtain ⟨file, hfile, hmem⟩ := hget i hi
    rw [← (hlater i file hfile).1]
    exact h.sink file (List.mem_append_right first hmem)
  case bytes =>
    obtain ⟨hi, -⟩ := List.getElem?_eq_some_iff.1 htext
    obtain ⟨file, hfile, -⟩ := hget i hi
    obtain ⟨hpath, hcontents⟩ := hlater i file hfile
    obtain ⟨hi', hat⟩ := List.getElem?_eq_some_iff.1 hfile
    -- the plan up to the file, the file, and what comes after it
    have hsplit : first ++ later = (first ++ later.take i) ++ file :: later.drop (i + 1) := by
      rw [List.append_assoc, ← hat, ← List.drop_eq_getElem_cons hi', List.take_append_drop]
    rw [hsplit] at h
    rw [htext] at hcontents
    rw [← hpath] at hid
    refine h.bytes_eq _ hcontents hid fun g hg => ?_
    obtain ⟨k, hk⟩ := List.mem_iff_getElem?.1 hg
    rw [List.getElem?_drop] at hk
    obtain ⟨hlt, -⟩ := List.getElem?_eq_some_iff.1 hk
    rw [(hlater _ g hk).1]
    exact hnext (i + 1 + k) (by omega) (by omega)
  case shared =>
    intro i j id hij hj hi hj' hdirect hdirect'
    obtain ⟨outer, name, other, hname, hother, hne, hpath, hpath'⟩ := hpaths i j hij hj
    rw [hpath] at hi hdirect
    rw [hpath'] at hj' hdirect'
    exact h.shared id (hname.isShared hother hne hi hj' hdirect hdirect')

/-- If all paths are plain, they lead to files of their own, each of which holds its text. -/
theorem HoldsTexts.of_plain (h : HoldsTexts before paths texts after)
    (hplain : ∀ i, i < texts.length → before.IsPlain after (paths i)) :
    (((List.range texts.length).map paths).map fun path => after.fileAt? path.toString).Nodup ∧
      ∀ i text, texts[i]? = some text → after.Holds (paths i).toString text := by
  have hdistinct : ∀ i j, i < j → j < texts.length →
      after.fileAt? (paths i).toString ≠ after.fileAt? (paths j).toString := by
    intro i j hij hj hsame
    obtain ⟨hdirect, id, hid, hnot⟩ := hplain i (Nat.lt_trans hij hj)
    obtain ⟨hdirect', -⟩ := hplain j hj
    exact hnot (h.shared i j id hij hj hid (hsame ▸ hid) hdirect hdirect')
  constructor
  · rw [List.map_map, List.nodup_iff_pairwise_ne, List.pairwise_map]
    refine List.pairwise_iff_getElem.2 fun i j hi hj hij => ?_
    rw [List.getElem_range, List.getElem_range]
    rw [List.length_range] at hj
    exact hdistinct i j hij hj
  · intro i text htext
    obtain ⟨hi, -⟩ := List.getElem?_eq_some_iff.1 htext
    obtain ⟨-, id, hid, -⟩ := hplain i hi
    refine ⟨id, hid, h.bytes i text id htext hid fun j hij hj hsame => ?_⟩
    exact hdistinct i j hij hj (hid.trans hsame.symm)

/-- Every name is that of a directory or the only one of a file. -/
structure FileSystem.IsSimple (fs : FileSystem) : Prop where
  entry : ∀ location entry, fs.get? location = some entry → entry = .directory ∨ ∃ id, entry = .file id
  unshared : ∀ id, ¬ fs.IsShared id

/-- Where no link, no device and no further name of a file is, the paths of all files that were written
are plain. -/
theorem HasWritten.isPlain {files : List Rendering} {path : Path}
    (h : HasWritten directory before files after) (hsimple : before.IsSimple)
    (hpath : path ∈ files.map Rendering.path) : before.IsPlain after path := by
  obtain ⟨file, hfile, rfl⟩ := List.mem_map.1 hpath
  have hentry : ∀ location entry, after.get? location = some entry →
      entry = .directory ∨ ∃ id, entry = .file id := by
    intro location entry hafter
    cases hbefore : before.get? location with
    | none => exact (h.added location entry hbefore hafter).imp And.left And.left
    | some old =>
      have hkept := h.grows.kept location old hbefore
      obtain rfl : entry = old := Option.some.inj (hafter.symm.trans hkept)
      exact hsimple.entry location entry hbefore
  constructor
  · intro place target _ hlink
    rcases hentry place _ hlink with hdirectory | ⟨id, hid⟩
    · exact nomatch hdirectory
    · exact nomatch hid
  · rcases h.sink file hfile with ⟨id, hid⟩ | ⟨output, hdevice⟩
    · exact ⟨id, hid, hsimple.unshared id⟩
    · obtain ⟨location, -, hget⟩ := find_eq_ok.1 hdevice
      rcases hentry location _ hget with hdirectory | ⟨id, hid⟩
      · exact nomatch hdirectory
      · exact nomatch hid

/-- There, files of different names in one directory are different ones. -/
theorem HasWritten.fileAt?_ne {files : List Rendering} {place : Path} {name other : String}
    (h : HasWritten directory before files after) (hsimple : before.IsSimple)
    (hname : Path.IsName name) (hother : Path.IsName other) (hne : name ≠ other)
    (hpath : place.join (.ofString name) ∈ files.map Rendering.path)
    (hpath' : place.join (.ofString other) ∈ files.map Rendering.path) :
    after.fileAt? (place.join (.ofString name)).toString ≠
      after.fileAt? (place.join (.ofString other)).toString := by
  intro hsame
  obtain ⟨hdirect, id, hid, hnot⟩ := h.isPlain hsimple hpath
  obtain ⟨hdirect', -⟩ := h.isPlain hsimple hpath'
  have hid' := hsame ▸ hid
  exact hnot (h.shared id (hname.isShared hother hne hid hid' hdirect hdirect'))

end DeclSplit
