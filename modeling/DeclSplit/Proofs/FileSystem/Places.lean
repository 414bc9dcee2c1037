import DeclSplit.Proofs.FileSystem
import DeclSplit.Proofs.Text.Split

/-!
# Names in a directory

The text of the path of a file in a directory ends in the name of the file, and so does the place of its
last name, wherever the directory is and whatever links there are on the way to it.

* `Path.IsName` — a text that names a file in a directory;
* `Path.IsName.splitOn_join`, `Path.IsName.locateName_join` — the path of a file in a directory and the
  place of its last name end in the name of the file;
* `Path.IsName.isShared` — files of different names are different ones, unless a link or a further name
  makes them one.
-/

namespace DeclSplit

namespace FileSystem

variable {fs : FileSystem}

theorem splitOn_append_slash (start rest : String) :
    Text.splitOn '/' (start ++ "/" ++ rest).toList =
      Text.splitOn '/' start.toList ++ Text.splitOn '/' rest.toList := by
  have htext : (start ++ "/" ++ rest).toList = start.toList ++ '/' :: rest.toList := by
    rw [String.toList_append, String.toList_append, List.append_assoc]
    rfl
  rw [htext, Text.splitOn_append_cons]

/-- If no link stands at the place of the last name of a path, the path leads to this place. -/
theorem locateName_of_isDirect {path : String} {location : Location} (hdirect : fs.IsDirect path)
    (h : fs.locate path = .ok location) : fs.locateName path = .ok location := by
  obtain ⟨place, hplace⟩ := locateName_of_locate h
  have hlocate := locate_of_locateName hplace fun target => hdirect place target hplace
  rw [hplace, ← h, hlocate]

end FileSystem

/-! ### Beginnings and ends in normal form -/

namespace Path

theorem toString_of_ne_nil {components : List String} (h : components ≠ []) (root : Root) :
    toString ⟨root, components⟩ = root.text ++ "/".intercalate components := by
  rw [toString, if_neg fun hdot => h hdot.2]

theorem toString_append {components further : List String} (h : components ≠ [])
    (hfurther : further ≠ []) (root : Root) :
    toString ⟨root, components ++ further⟩ =
      toString ⟨root, components⟩ ++ "/" ++ "/".intercalate further := by
  rw [toString_of_ne_nil (List.append_ne_nil_of_left_ne_nil h further), toString_of_ne_nil h,
    String.intercalate_append_of_ne_nil h hfurther, String.append_assoc, String.append_assoc,
    String.append_assoc]

/-- What names a file in a directory: one component of a path that leads nowhere else. -/
structure IsName (name : String) : Prop where
  slash_not_mem : '/' ∉ name.toList
  ne_nil : name.toList ≠ []
  ne_dot : name.toList ≠ ['.']
  ne_dots : name.toList ≠ ['.', '.']

variable {name : String}

theorem IsName.ofString_eq (h : IsName name) : ofString name = ⟨.here, [name]⟩ := by
  have hroot : Root.ofString name.toList = .here := by
    have hslash := h.slash_not_mem
    rw [Root.ofString.eq_def]
    split <;> simp_all
  have hparts : componentsOf name.toList = [name] := by
    have hkept : decide (name.toList ≠ [] ∧ name.toList ≠ ['.']) = true :=
      decide_eq_true ⟨h.ne_nil, h.ne_dot⟩
    rw [componentsOf, Text.splitOn_eq_singleton h.slash_not_mem, List.filter_cons, hkept, if_pos rfl,
      List.filter_nil, List.map_singleton, String.ofList_toList]
  rw [ofString, hroot, hparts]

/-- A name is looked up in a directory and leads to a place that ends in it. -/
theorem IsName.enter_eq (h : IsName name) {fs : FileSystem} {location next : FileSystem.Location}
    (henter : fs.enter location name.toList = .ok next) : next = location ++ [name] := by
  rw [FileSystem.enter, if_neg (not_or.2 ⟨h.ne_nil, h.ne_dot⟩), if_neg h.ne_dots,
    String.ofList_toList] at henter
  split at henter
  next => cases henter
  next =>
    split at henter
    next => cases henter
    next => exact (Except.ok.inj henter).symm
  next => cases henter

/-- The parts that the text of the path of a file has before the name of the file. -/
def outerParts (directory : Path) : List (List Char) :=
  if directory.components = [] then (Text.splitOn '/' directory.root.text.toList).dropLast
  else Text.splitOn '/' directory.toString.toList

theorem IsName.join_ofString (h : IsName name) (directory : Path) :
    directory.join (.ofString name) = ⟨directory.root, directory.components ++ [name]⟩ := by
  rw [h.ofString_eq, join, if_pos rfl]

/-- A name is the last part of the text of the path that ends in it. -/
theorem IsName.splitOn_join (h : IsName name) (directory : Path) :
    Text.splitOn '/' (directory.join (.ofString name)).toString.toList =
      directory.outerParts ++ [name.toList] := by
  have hname := Text.splitOn_eq_singleton h.slash_not_mem
  obtain ⟨root, components⟩ := directory
  rw [h.join_ofString, outerParts]
  by_cases hcomponents : components = []
  · have htext : toString ⟨root, [name]⟩ = root.text ++ name := by
      rw [toString_of_ne_nil (List.cons_ne_nil name []), String.intercalate_singleton]
    rw [hcomponents, List.nil_append, htext, String.toList_append, if_pos rfl]
    cases root with
    | here => exact hname
    | slash =>
      show Text.splitOn '/' ('/' :: name.toList) = _
      rw [Text.splitOn_cons, if_pos rfl, hname]
      rfl
    | doubleSlash =>
      show Text.splitOn '/' ('/' :: '/' :: name.toList) = _
      rw [Text.splitOn_cons, if_pos rfl, Text.splitOn_cons, if_pos rfl, hname]
      rfl
  · rw [toString_append hcomponents (List.cons_ne_nil name []), String.intercalate_singleton,
      FileSystem.splitOn_append_slash, hname, if_neg hcomponents]

/-- The last name of the path of a file in a directory stands at a place that ends in the name. -/
theorem IsName.locateName_join (h : IsName name) {fs : FileSystem} {directory : Path}
    {place : FileSystem.Location}
    (hplace : fs.locateName (directory.join (.ofString name)).toString = .ok place) :
    ∃ outer, place = outer ++ [name] := by
  obtain ⟨-, hway⟩ := FileSystem.locateBy_eq_ok.1 hplace
  rw [h.splitOn_join] at hway
  refine (FileSystem.follow_induct (P := fun _ start components place =>
    (components = [] → place = start) ∧
      ∀ outer, components = outer ++ [name.toList] → ∃ outer, place = outer ++ [name])
    ?done ?step ?stop ?jump hway).2 directory.outerParts rfl
  case done =>
    intro _ start
    refine ⟨fun _ => rfl, fun outer hempty => ?_⟩
    exact absurd hempty.symm (List.append_ne_nil_of_right_ne_nil outer (List.cons_ne_nil _ []))
  case step =>
    intro _ start component rest next place henter _ ih
    refine ⟨nofun, fun outer hcomponents => ?_⟩
    cases outer with
    | nil =>
      -- the name is the last component
      obtain ⟨rfl, rfl⟩ := List.cons.inj hcomponents
      rw [ih.1 rfl]
      exact ⟨start, h.enter_eq henter⟩
    | cons first outer => exact ih.2 outer (List.cons.inj hcomponents).2
  case stop =>
    intro _ start component next _ _ henter _
    refine ⟨nofun, fun outer hcomponents => ?_⟩
    cases outer with
    | nil =>
      obtain rfl := List.singleton_inj.1 hcomponents
      exact ⟨start, h.enter_eq henter⟩
    | cons first outer =>
      exact absurd (List.cons.inj hcomponents).2.symm
        (List.append_ne_nil_of_right_ne_nil outer (List.cons_ne_nil _ []))
  case jump =>
    intro _ start component rest next target place hgoOn _ _ ih
    refine ⟨nofun, fun outer hcomponents => ?_⟩
    cases outer with
    | nil => exact absurd ⟨(List.cons.inj hcomponents).2, rfl⟩ hgoOn
    | cons first outer =>
      rw [(List.cons.inj hcomponents).2] at ih
      exact ih.2 (Text.splitOn '/' target.toList ++ outer) (List.append_assoc ..).symm

/-- The paths of two files of different names in a directory lead to one file only if one of them ends
in a link or the file has more than one name. -/
theorem IsName.isShared {fs : FileSystem} {directory : Path} {other : String} {id : FileSystem.FileId}
    (hname : IsName name) (hother : IsName other) (hne : name ≠ other)
    (hfile : fs.fileAt? (directory.join (.ofString name)).toString = some id)
    (hfile' : fs.fileAt? (directory.join (.ofString other)).toString = some id)
    (hdirect : fs.IsDirect (directory.join (.ofString name)).toString)
    (hdirect' : fs.IsDirect (directory.join (.ofString other)).toString) : fs.IsShared id := by
  obtain ⟨location, hlocate, hentry⟩ := FileSystem.find_eq_ok.1 (FileSystem.fileAt?_eq_some.1 hfile)
  obtain ⟨location', hlocate', hentry'⟩ :=
    FileSystem.find_eq_ok.1 (FileSystem.fileAt?_eq_some.1 hfile')
  obtain ⟨outer, rfl⟩ := hname.locateName_join (FileSystem.locateName_of_isDirect hdirect hlocate)
  obtain ⟨outer', rfl⟩ := hother.locateName_join (FileSystem.locateName_of_isDirect hdirect' hlocate')
  refine ⟨_, _, fun hsame => hne ?_, hentry, hentry'⟩
  exact List.singleton_inj.1 (List.append_inj_right' hsame rfl)

end Path

end DeclSplit
