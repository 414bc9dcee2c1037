import DeclSplit.Output
import DeclSplit.Proofs.FileSystem.Directories
import DeclSplit.Proofs.FileSystem.Places

/-!
# Carrying out a plan

The files of a plan are written in order up to the first that cannot be written.  Then there are all
files before it, whole, and nothing of it or of a later one, unless the system broke off while the file
was open: then there is a beginning of it.

* `written?` — the contents that a file has after some files were written;
* `HasWritten` — a file system after directories were made and files written, and nothing else;
* `WrittenUpTo`, `CarriedOut` — how a plan ends, and what there is then;
* `writtenUpTo_writeAll`, `carriedOut_writeInto`, `CarriedOut.andThen` — every plan ends so;
* `writeAll_append`, `writeAll_complete` — a plan in two parts, and when all of it is written;
* `Rendering.segmentFile_injective`, `Rendering.isName_segmentFile` — numbered files have names of their
  own.
-/

namespace DeclSplit

open FileSystem

/-! ### Specification -/

/-- The contents that a file has after files were written in order: those of the last whose path leads
to it. -/
def written? (after : FileSystem) (files : List Rendering) (id : FileId) : Option (List UInt8) :=
  files.reverse.findSome? fun file =>
    if after.fileAt? file.path.toString = some id then file.contents? else none

/-- A file system after directories were made on the way to one and files were written in order.  Each
of these has a path that leads to a file or to a device, and nothing else was created, changed or
removed. -/
structure HasWritten (directory : Path) (before : FileSystem) (files : List Rendering)
    (after : FileSystem) : Prop where
  grows : Grows before after
  contents : ∀ file ∈ files, ∃ contents, file.contents? = some contents
  sink : ∀ file ∈ files, after.IsSink file.path.toString
  bytes : ∀ id, after.bytes id = (written? after files id).getD (before.bytes id)
  added : ∀ location entry, before.get? location = none → after.get? location = some entry →
    (entry = .directory ∧ after.IsOnWay directory location) ∨
      (∃ id, entry = .file id) ∧ ∃ file ∈ files, after.locate file.path.toString = .ok location
  shared : ∀ id, after.IsShared id → before.IsShared id

/-- The file with no more than a beginning of its contents. -/
def Rendering.cut (file : Rendering) (taken : Nat) : Rendering :=
  match file with
  | .ast path contents => .ast path (contents.take taken)
  | .ir path text => .ir path (text.map (·.take taken))

/-- Why nothing is written of a file: it has no contents, or it cannot be opened. -/
def Rendering.IsRefused (file : Rendering) (fs : FileSystem) (error : WriteError) : Prop :=
  match file.contents? with
  | none => error = .tooDeep file.path
  | some _ => ∃ e, fs.openFile file.path.toString = .error e ∧ error = .files e

/-- How far the files of a plan for a directory were written. -/
inductive WrittenUpTo (directory : Path) (fs : FileSystem) (plan : List Rendering) : Written → Prop
  /-- The files before one of which nothing could be written are there. -/
  | refused {after : FileSystem} {done rest : List Rendering} {file : Rendering} {error : WriteError}
      (hplan : plan = done ++ file :: rest)
      (hrefused : file.IsRefused after error)
      (hafter : HasWritten directory fs done after) :
      WrittenUpTo directory fs plan ⟨after, done, some error⟩
  /-- The files before one are there, and of this one as much as was written before the system broke
  off. -/
  | broken {after between opened : FileSystem} {id : Option FileId} {done rest : List Rendering}
      {file : Rendering} {contents : List UInt8} {taken : Nat} {cause : Cause}
      (hplan : plan = done ++ file :: rest)
      (hcontents : file.contents? = some contents)
      (hbetween : HasWritten directory fs done between)
      (hopen : between.openFile file.path.toString = .ok (opened, id))
      (hbroken : fs.host.interruption? opened.toFiles file.path.toString contents =
        some (taken, cause))
      (hafter : HasWritten directory fs (done ++ [file.cut taken]) after) :
      WrittenUpTo directory fs plan ⟨after, done, some (.files ⟨cause, none⟩)⟩
  /-- The directory and all files are there. -/
  | complete {after : FileSystem}
      (hthere : after.find directory.toString = .ok .directory)
      (hafter : HasWritten directory fs plan after) :
      WrittenUpTo directory fs plan ⟨after, plan, none⟩

/-- How a plan for a directory is carried out. -/
inductive CarriedOut (directory : Path) (fs : FileSystem) (plan : List Rendering) : Written → Prop
  /-- The directory could not be made, be it again after the first files.  Some of those on the way to it
  may have been. -/
  | noDirectory {after between : FileSystem} {done rest : List Rendering} {error : FileSystem.Error}
      (hplan : plan = done ++ rest)
      (hbetween : HasWritten directory fs done between)
      (hrefused : between.makeDirectories directory = (after, some error))
      (hafter : HasWritten directory fs done after) :
      CarriedOut directory fs plan ⟨after, done, some (.files error)⟩
  /-- The directory is there, and the files up to some point. -/
  | written {w : Written} (h : WrittenUpTo directory fs plan w) : CarriedOut directory fs plan w

variable {directory : Path} {fs between after : FileSystem}

/-! ### The last write to a file -/

theorem written?_append (after : FileSystem) (files later : List Rendering) (id : FileId) :
    written? after (files ++ later) id = (written? after later id).or (written? after files id) := by
  rw [written?, List.reverse_append, List.findSome?_append, written?, written?]

theorem written?_singleton (after : FileSystem) (file : Rendering) (id : FileId) :
    written? after [file] id =
      if after.fileAt? file.path.toString = some id then file.contents? else none := by
  simp [written?]

/-- A file that no path leads to is not written to. -/
theorem written?_eq_none {files : List Rendering} {id : FileId}
    (h : ∀ file ∈ files, after.fileAt? file.path.toString ≠ some id) :
    written? after files id = none := by
  rw [written?, List.findSome?_eq_none_iff]
  intro file hfile
  rw [if_neg (h file (List.mem_reverse.1 hfile))]

theorem written?_congr {files : List Rendering}
    (h : ∀ file ∈ files, after.fileAt? file.path.toString = between.fileAt? file.path.toString)
    (id : FileId) : written? after files id = written? between files id := by
  induction files with
  | nil => rfl
  | cons file files ih =>
    have hrest := ih fun g hg => h g (List.mem_cons_of_mem file hg)
    rw [← List.singleton_append, written?_append, written?_append, hrest, written?_singleton,
      written?_singleton, h file List.mem_cons_self]

namespace HasWritten

variable {files later : List Rendering}

theorem of_adds (h : AddsDirectories fs directory after) : HasWritten directory fs [] after where
  grows := h.grows
  contents := nofun
  sink := nofun
  bytes := h.bytes
  added := fun location entry hnone hentry => .inl (h.added location entry hnone hentry)
  shared := h.shared

/-- One file that was written. -/
theorem of_isWritten {file : Rendering} {contents : List UInt8}
    (hcontents : file.contents? = some contents)
    (h : IsWritten fs file.path.toString contents after) : HasWritten directory fs [file] after where
  grows := h.grows
  contents := by
    intro g hg
    obtain rfl := List.mem_singleton.1 hg
    exact ⟨contents, hcontents⟩
  sink := by
    intro g hg
    obtain rfl := List.mem_singleton.1 hg
    exact h.sink
  bytes := by
    intro id
    rw [h.bytes, written?_singleton, hcontents]
    split <;> rfl
  added := by
    intro location entry hnone hentry
    obtain ⟨hlocate, hfile⟩ := h.added location entry hnone hentry
    exact .inr ⟨hfile, file, List.mem_singleton_self file, hlocate⟩
  shared := h.shared

/-- Files that were written after others. -/
theorem append (h : HasWritten directory fs files between)
    (h' : HasWritten directory between later after) :
    HasWritten directory fs (files ++ later) after where
  grows := h.grows.trans h'.grows
  contents := by
    intro file hfile
    exact (List.mem_append.1 hfile).elim (h.contents file) (h'.contents file)
  sink := by
    intro file hfile
    exact (List.mem_append.1 hfile).elim (fun hold => (h.sink file hold).mono h'.grows) (h'.sink file)
  bytes := by
    intro id
    have hsame := written?_congr (fun file hfile => (h.sink file hfile).fileAt?_eq h'.grows) id
    rw [h'.bytes, h.bytes, written?_append, hsame]
    cases written? after later id <;> rfl
  added := by
    intro location entry hnone hentry
    cases hbetween : between.get? location with
    | none =>
      refine (h'.added location entry hbetween hentry).imp_right ?_
      rintro ⟨hfile, file, hmem, hlocate⟩
      exact ⟨hfile, file, List.mem_append_right files hmem, hlocate⟩
    | some old =>
      have hkept := h'.grows.kept location old hbetween
      obtain rfl : entry = old := Option.some.inj (hentry.symm.trans hkept)
      rcases h.added location entry hnone hbetween with ⟨hdirectory, hway⟩ | ⟨hfile, file, hmem, hlocate⟩
      · exact .inl ⟨hdirectory, hway.mono h'.grows⟩
      · exact .inr ⟨hfile, file, List.mem_append_left later hmem, h'.grows.locate hlocate⟩
  shared := fun id hshared => h.shared id (h'.shared id hshared)

/-- A file that no later path leads to holds what was written to it. -/
theorem bytes_eq (files : List Rendering) {file : Rendering} {id : FileId} {contents : List UInt8}
    (h : HasWritten directory fs (files ++ file :: later) after)
    (hcontents : file.contents? = some contents)
    (hfile : after.fileAt? file.path.toString = some id)
    (hlater : ∀ g ∈ later, after.fileAt? g.path.toString ≠ some id) : after.bytes id = contents := by
  rw [h.bytes, written?_append, ← List.singleton_append, written?_append, written?_eq_none hlater,
    written?_singleton, if_pos hfile, hcontents]
  rfl

end HasWritten

/-! ### One file -/

namespace Rendering

@[simp] theorem path_cut (file : Rendering) (taken : Nat) : (file.cut taken).path = file.path := by
  cases file <;> rfl

theorem contents?_cut (file : Rendering) (taken : Nat) :
    (file.cut taken).contents? = file.contents?.map (·.take taken) := by
  cases file with
  | ast path contents => rfl
  | ir path text =>
    cases text with
    | none => rfl
    | some text => simp [cut, contents?, asciiBytes, List.map_take]

/-- Nothing of a file is written, or all of it, or, if the system breaks off, a beginning. -/
theorem write_cases (file : Rendering) (directory : Path) (fs : FileSystem) :
    (∃ e, file.IsRefused fs e ∧ file.write fs = (fs, some e)) ∨
    (∃ after, HasWritten directory fs [file] after ∧ file.write fs = (after, none)) ∨
    ∃ after opened id contents taken cause, file.contents? = some contents ∧
      fs.openFile file.path.toString = .ok (opened, id) ∧
        fs.host.interruption? opened.toFiles file.path.toString contents = some (taken, cause) ∧
        HasWritten directory fs [file.cut taken] after ∧
        file.write fs = (after, some (.files ⟨cause, none⟩)) := by
  cases hcontents : file.contents? with
  | none =>
    refine .inl ⟨.tooDeep file.path, ?_, ?_⟩
    · rw [IsRefused, hcontents]
    · rw [write, hcontents]
  | some contents =>
    simp only [IsRefused, write, hcontents]
    rcases writeFile_cases fs file.path.toString contents with ⟨e, hopen, hwrite⟩ |
      ⟨after, hafter, hwrite⟩ | ⟨after, opened, id, taken, cause, hopen, hbroken, hafter, hwrite⟩
    · rw [hwrite]
      exact .inl ⟨.files e, ⟨e, hopen, rfl⟩, rfl⟩
    · rw [hwrite]
      exact .inr (.inl ⟨after, .of_isWritten hcontents hafter, rfl⟩)
    · rw [hwrite]
      have hcut : (file.cut taken).contents? = some (contents.take taken) := by
        rw [contents?_cut, hcontents]
        rfl
      rw [← path_cut file taken] at hafter
      exact .inr (.inr ⟨after, opened, id, contents, taken, cause, rfl, hopen, hbroken,
        .of_isWritten hcut hafter, rfl⟩)

end Rendering

/-! ### The files of a plan -/

variable {plan further : List Rendering} {w : Written}

/-- A plan that is carried out after files were written is the rest of one. -/
theorem WrittenUpTo.after_written {done : List Rendering} (hdone : HasWritten directory fs done between)
    (h : WrittenUpTo directory between plan w) :
    WrittenUpTo directory fs (done ++ plan) { w with done := done ++ w.done } := by
  cases h with
  | refused hplan hrefused hafter =>
    exact .refused (by rw [hplan, List.append_assoc]) hrefused (hdone.append hafter)
  | broken hplan hcontents hbetween hopen hbroken hafter =>
    rw [hdone.grows.host_eq] at hbroken
    exact .broken (by rw [hplan, List.append_assoc]) hcontents (hdone.append hbetween) hopen hbroken
      (by rw [List.append_assoc]; exact hdone.append hafter)
  | complete hthere hafter => exact .complete hthere (hdone.append hafter)

/-- The files of a plan are written up to the first that cannot be written. -/
theorem writtenUpTo_writeAll (fs : FileSystem) (plan : List Rendering)
    (hthere : fs.find directory.toString = .ok .directory) :
    WrittenUpTo directory fs plan (writeAll fs plan) := by
  induction plan generalizing fs with
  | nil => exact .complete hthere (.of_adds (.refl fs directory))
  | cons file rest ih =>
    rw [writeAll]
    rcases file.write_cases directory fs with ⟨e, hrefused, hwrite⟩ |
      ⟨after, hafter, hwrite⟩ |
      ⟨after, opened, id, contents, taken, cause, hcontents, hopen, hbroken, hafter, hwrite⟩
    · rw [hwrite]
      exact .refused (List.nil_append _).symm hrefused (.of_adds (.refl fs directory))
    · rw [hwrite]
      exact (ih after (hafter.grows.find hthere)).after_written hafter
    · rw [hwrite]
      exact .broken (List.nil_append _).symm hcontents (.of_adds (.refl fs directory)) hopen hbroken hafter

/-- A plan for a directory is not begun if the directory cannot be made. -/
theorem writeInto_cases (fs : FileSystem) (directory : Path) (plan : List Rendering) :
    (∃ after error, fs.makeDirectories directory = (after, some error) ∧
      HasWritten directory fs [] after ∧
      writeInto fs directory plan = ⟨after, [], some (.files error)⟩) ∨
    WrittenUpTo directory fs plan (writeInto fs directory plan) := by
  have hadds := makeDirectories_adds fs directory
  have hfind := @find_of_makeDirectories fs directory
  rw [writeInto]
  cases hmake : fs.makeDirectories directory with
  | mk made refusal =>
    rw [hmake] at hadds hfind
    cases refusal with
    | some e => exact .inl ⟨made, e, rfl, .of_adds hadds, rfl⟩
    | none => exact .inr ((writtenUpTo_writeAll made plan (hfind rfl)).after_written (.of_adds hadds))

namespace CarriedOut

theorem after_written {done : List Rendering} (hdone : HasWritten directory fs done between)
    (h : CarriedOut directory between plan w) :
    CarriedOut directory fs (done ++ plan) { w with done := done ++ w.done } := by
  cases h with
  | noDirectory hplan hbetween hrefused hafter =>
    exact .noDirectory (by rw [hplan, List.append_assoc]) (hdone.append hbetween) hrefused
      (hdone.append hafter)
  | written h => exact .written (h.after_written hdone)

/-- A plan and a further one, which is not begun if the first was stopped. -/
theorem andThen {next : FileSystem → Written} (h : CarriedOut directory fs plan w)
    (hnext : ∀ between, between.find directory.toString = .ok .directory →
      CarriedOut directory between further (next between)) :
    CarriedOut directory fs (plan ++ further) (w.andThen next) := by
  cases h with
  | noDirectory hplan hbetween hrefused hafter =>
    exact .noDirectory (by rw [hplan, List.append_assoc]) hbetween hrefused hafter
  | written h =>
    cases h with
    | refused hplan hrefused hafter =>
      exact .written (.refused (by rw [hplan, List.append_assoc]; rfl) hrefused hafter)
    | broken hplan hcontents hbetween hopen hbroken hafter =>
      exact .written (.broken (by rw [hplan, List.append_assoc]; rfl) hcontents hbetween hopen hbroken
        hafter)
    | complete hthere hafter => exact (hnext _ hthere).after_written hafter

/-- A plan that was not stopped has been carried out as a whole. -/
theorem hasWritten_of_error_eq_none (h : CarriedOut directory fs plan w) (herror : w.error = none) :
    w.done = plan ∧ w.files.find directory.toString = .ok .directory ∧
      HasWritten directory fs plan w.files := by
  cases h with
  | noDirectory => exact nomatch herror
  | written h =>
    cases h with
    | complete hthere hafter => exact ⟨rfl, hthere, hafter⟩
    | refused | broken => exact nomatch herror

end CarriedOut

/-- A plan is carried out in a directory, which is made before. -/
theorem carriedOut_writeInto (fs : FileSystem) (directory : Path) (plan : List Rendering) :
    CarriedOut directory fs plan (writeInto fs directory plan) := by
  rcases writeInto_cases fs directory plan with ⟨after, error, hrefused, hafter, hwritten⟩ | h
  · rw [hwritten]
    exact .noDirectory (List.nil_append plan).symm (.of_adds (.refl fs directory)) hrefused hafter
  · exact .written h

/-- A willing system carries out a plan completely if each of its files has contents and a path where no
directory and no device is. -/
theorem writeAll_complete {plan : List Rendering} (hwilling : fs.host = .willing)
    (hcontents : ∀ file ∈ plan, ∃ contents, file.contents? = some contents)
    (hpaths : ∀ file ∈ plan, ∃ location, fs.locate file.path.toString = .ok location ∧
      ∀ entry, fs.get? location = some entry → entry.isFile = true) :
    (writeAll fs plan).error = none := by
  induction plan generalizing fs with
  | nil => rfl
  | cons file rest ih =>
    obtain ⟨contents, hfile⟩ := hcontents file List.mem_cons_self
    obtain ⟨location, hlocate, hentry⟩ := hpaths file List.mem_cons_self
    obtain ⟨after, hafter, hwriteFile⟩ := writeFile_of_willing contents hwilling hlocate hentry
    have hwrite : file.write fs = (after, none) := by
      rw [Rendering.write, hfile]
      dsimp only
      rw [hwriteFile]
      rfl
    rw [writeAll, hwrite]
    refine ih (hafter.grows.host_eq.trans hwilling)
      (fun g hg => hcontents g (List.mem_cons_of_mem file hg)) fun g hg => ?_
    obtain ⟨other, hother, hfiles⟩ := hpaths g (List.mem_cons_of_mem file hg)
    refine ⟨other, hafter.grows.locate hother, fun entry hentry => ?_⟩
    cases hbefore : fs.get? other with
    | none =>
      obtain ⟨-, id, rfl⟩ := hafter.added other entry hbefore hentry
      rfl
    | some old =>
      have hkept := hafter.grows.kept other old hbefore
      obtain rfl : entry = old := Option.some.inj (hentry.symm.trans hkept)
      exact hfiles entry hbefore

theorem Written.andThen_congr {next next' : FileSystem → Written}
    (h : w.error = none → next w.files = next' w.files) : w.andThen next = w.andThen next' := by
  rw [Written.andThen, Written.andThen]
  cases herror : w.error with
  | some e => rfl
  | none => rw [h herror]

/-- The rest of a plan is written after its beginning. -/
theorem writeAll_append (fs : FileSystem) (plan further : List Rendering) :
    writeAll fs (plan ++ further) = (writeAll fs plan).andThen (writeAll · further) := by
  induction plan generalizing fs with
  | nil => rfl
  | cons file rest ih =>
    rw [List.cons_append, writeAll, writeAll]
    rcases file.write fs with ⟨after, _ | e⟩
    · dsimp only
      rw [ih, Written.andThen, Written.andThen]
      rcases writeAll after rest with ⟨last, done, _ | e⟩ <;> rfl
    · rfl

/-! ### Numbered files -/

namespace Rendering

theorem toList_segmentFile (index : Nat) :
    (segmentFile index).toList =
      "ir_segment_".toList ++ Nat.toDigits 10 index ++ ".json".toList := by
  show ("ir_segment_" ++ index.repr ++ ".json").toList = _
  rw [String.toList_append, String.toList_append, Nat.toList_repr]

theorem segmentFile_injective : Function.Injective segmentFile := by
  intro i j h
  have htexts : (segmentFile i).toList = (segmentFile j).toList := by rw [h]
  rw [toList_segmentFile, toList_segmentFile] at htexts
  have hdigits := List.append_cancel_left (List.append_cancel_right htexts)
  rw [← @Nat.ofDigitChars_ten_toDigits i, hdigits, Nat.ofDigitChars_ten_toDigits]

theorem isName_segmentFile (index : Nat) : Path.IsName (segmentFile index) := by
  have htext := toList_segmentFile index
  have hlong : 2 < (segmentFile index).toList.length := by
    rw [htext, List.length_append, List.length_append]
    have hstart : "ir_segment_".toList.length = 11 := by decide +kernel
    omega
  refine ⟨fun hmem => ?_, ?_, ?_, ?_⟩
  · rw [htext, List.mem_append, List.mem_append] at hmem
    rcases hmem with (hstart | hdigits) | hend
    · exact absurd hstart (by decide +kernel)
    · exact absurd (Nat.isDigit_of_mem_toDigits (by decide) (by decide) hdigits) (by decide)
    · exact absurd hend (by decide +kernel)
  all_goals
    intro h
    rw [h] at hlong
    exact absurd hlong (by decide)

/-- The path of the file of a segment. -/
def segmentPath (directory : Path) (index : Nat) : Path :=
  directory.join (.ofString (segmentFile index))

/-- The paths of numbered files. -/
theorem map_path_mapIdx (levels : Nat) (paths : Nat → Path) (ts : List (Ir String)) :
    (ts.mapIdx fun i t => ofIr levels (paths i) t).map path = (List.range ts.length).map paths := by
  have hlength : ((ts.mapIdx fun i t => ofIr levels (paths i) t).map path).length =
      ((List.range ts.length).map paths).length := by
    rw [List.length_map, List.length_map, List.length_range, List.length_mapIdx]
  refine List.ext_getElem hlength fun i _ _ => ?_
  rw [List.getElem_map, List.getElem_map, List.getElem_mapIdx, List.getElem_range]
  rfl

end Rendering

end DeclSplit
