import DeclSplit.FileSystem
import Mathlib.Data.List.MinMax

/-!
# What stays when files are written

Writing adds entries and changes the contents of files, but no entry that is there is taken away or
turned into another one, and no link is made.  So a path that leads somewhere goes on leading there.

* `FileSystem.lookup_putPair`, `FileSystem.get?_put`, `FileSystem.bytes_setBytes` — what is found after
  something was put;
* `FileSystem.follow_induct` — the induction on the way of a path through directories and over links;
* `FileSystem.Grows`, `FileSystem.Grows.find` — a file system with further entries, in which paths lead
  where they led;
* `FileSystem.locate_of_locateName`, `FileSystem.locateName_of_locate` — the place of the last name of a
  path, and where the path leads;
* `FileSystem.IsWritten`, `FileSystem.writeFile_cases` — all that writing a file does, also if it breaks
  off;
* `FileSystem.Holds` — a path leads to a file with the given contents.
-/

namespace DeclSplit.FileSystem

variable {fs fs' : FileSystem}

/-! ### Entries and contents -/

section Pairs

variable {κ α : Type} [DecidableEq κ] [BEq κ] [LawfulBEq κ]

theorem lookup_cons_eq_ite (key probe : κ) (value : α) (pairs : List (κ × α)) :
    ((key, value) :: pairs).lookup probe = if probe = key then some value else pairs.lookup probe := by
  by_cases h : probe = key
  · simp [h]
  · simp [List.lookup_cons, beq_false_of_ne h, h]

/-- What is found under a key after a pair was put. -/
theorem lookup_putPair (key probe : κ) (value : α) (pairs : List (κ × α)) :
    (putPair key value pairs).lookup probe =
      if probe = key then some value else pairs.lookup probe := by
  induction pairs with
  | nil => rw [putPair, lookup_cons_eq_ite]
  | cons first rest ih =>
    obtain ⟨k, a⟩ := first
    by_cases hk : k = key
    · subst hk
      simp only [putPair, if_pos, lookup_cons_eq_ite]
      split <;> rfl
    · by_cases h : probe = k
      · subst h
        simp [putPair, hk]
      · simp only [putPair, hk, if_false, lookup_cons_eq_ite, h, ih]

end Pairs

theorem mem_of_lookup {κ α : Type} [BEq κ] [LawfulBEq κ] {key : κ} {value : α} {pairs : List (κ × α)}
    (h : pairs.lookup key = some value) : (key, value) ∈ pairs := by
  obtain ⟨before, after, rfl, -⟩ := List.lookup_eq_some_iff.1 h
  exact List.mem_append_right before List.mem_cons_self

/-- What there is at a location after an entry was put at one. -/
theorem get?_put (fs : FileSystem) {location : Location} (entry : Entry) (probe : Location)
    (h : location ≠ []) :
    (fs.put location entry).get? probe = if probe = location then some entry else fs.get? probe := by
  by_cases hroot : probe = []
  · subst hroot
    simp [get?, Ne.symm h]
  · simp [get?, put, hroot, lookup_putPair]

@[simp] theorem get?_setBytes (fs : FileSystem) (id : FileId) (contents : List UInt8)
    (probe : Location) : (fs.setBytes id contents).get? probe = fs.get? probe := rfl

@[simp] theorem bytes_put (fs : FileSystem) (location : Location) (entry : Entry) (id : FileId) :
    (fs.put location entry).bytes id = fs.bytes id := rfl

/-- The contents of a file after contents were put. -/
theorem bytes_setBytes (fs : FileSystem) (id probe : FileId) (contents : List UInt8) :
    (fs.setBytes id contents).bytes probe = if probe = id then contents else fs.bytes probe := by
  by_cases h : probe = id <;> simp [bytes, setBytes, lookup_putPair, h]

theorem ne_nil_of_get?_eq_none {location : Location} (h : fs.get? location = none) :
    location ≠ [] := by
  rintro rfl
  exact nomatch h

/-- No name leads to the file with the fresh number. -/
theorem get?_ne_freshId (fs : FileSystem) (location : Location) :
    fs.get? location ≠ some (.file fs.freshId) := by
  intro h
  rw [get?] at h
  split at h
  next => exact nomatch h
  next =>
    have hmem := List.mem_map_of_mem (f := fun pair => Entry.above pair.2) (mem_of_lookup h)
    exact Nat.not_succ_le_self fs.freshId (List.le_max_of_le' 0 hmem (Nat.le_refl _))

/-! ### The way of a path -/

/-- Where the way goes on after a link, if one may still be followed. -/
def detour (fs : FileSystem) (atEnd : Bool) :
    Nat → Location → List (List Char) → Except Cause Location
  | 0 => fun _ _ => .error .tooManyLinks
  | links + 1 => fs.follow atEnd links

theorem detour_succ (fs : FileSystem) (atEnd : Bool) (links : Nat) :
    fs.detour atEnd (links + 1) = fs.follow atEnd links := rfl

theorem follow_eq (fs : FileSystem) (atEnd : Bool) (links : Nat) :
    fs.follow atEnd links = fs.followWith atEnd (fs.detour atEnd links) := by
  cases links <;> rfl

theorem follow_nil (fs : FileSystem) (atEnd : Bool) (links : Nat) (location : Location) :
    fs.follow atEnd links location [] = .ok location := by
  rw [follow_eq, followWith]

/-- The next component is followed in a directory and leads to no link. -/
theorem follow_cons {atEnd : Bool} {links : Nat} {location next : Location} {component : List Char}
    {rest : List (List Char)} (henter : fs.enter location component = .ok next)
    (hlink : ∀ target, fs.get? next ≠ some (.link target)) :
    fs.follow atEnd links location (component :: rest) = fs.follow atEnd links next rest := by
  rw [follow_eq, followWith, henter]
  dsimp only [bind, Except.bind]
  split
  next target htarget => exact absurd htarget (hlink target)
  next => rfl

/-- The next component leads to a link. -/
theorem follow_cons_link {atEnd : Bool} {links : Nat} {location next : Location}
    {component : List Char} {rest : List (List Char)} {target : String}
    (henter : fs.enter location component = .ok next)
    (hlink : fs.get? next = some (.link target)) :
    fs.follow atEnd links location (component :: rest) =
      if rest = [] ∧ !atEnd then .ok next
      else fs.detour atEnd links (startOf next.dropLast target)
        (Text.splitOn '/' target.toList ++ rest) := by
  rw [follow_eq, followWith, henter]
  simp only [bind, Except.bind, hlink]

/-- The induction on a way that leads somewhere: its end, a component that leads to no link, a last one
that is a link and is not followed, and a link that is followed. -/
theorem follow_induct {atEnd : Bool} {P : Nat → Location → List (List Char) → Location → Prop}
    (done : ∀ links location, P links location [] location)
    (step : ∀ links location component rest next result, fs.enter location component = .ok next →
      (∀ target, fs.get? next ≠ some (.link target)) → P links next rest result →
        P links location (component :: rest) result)
    (stop : ∀ links location component next target, atEnd = false →
      fs.enter location component = .ok next → fs.get? next = some (.link target) →
        P links location [component] next)
    (jump : ∀ links location component rest next target result, ¬ (rest = [] ∧ atEnd = false) →
      fs.enter location component = .ok next → fs.get? next = some (.link target) →
        P links (startOf next.dropLast target) (Text.splitOn '/' target.toList ++ rest) result →
          P (links + 1) location (component :: rest) result)
    {links : Nat} {location result : Location} {components : List (List Char)}
    (h : fs.follow atEnd links location components = .ok result) :
    P links location components result := by
  -- with so many links to go, if it holds with one less
  have way : ∀ links, (∀ location components, fs.detour atEnd links location components = .ok result →
        ∃ before, links = before + 1 ∧ P before location components result) →
      ∀ components location, fs.follow atEnd links location components = .ok result →
        P links location components result := by
    intro links hdetour components
    induction components with
    | nil =>
      intro location h
      rw [follow_nil] at h
      obtain rfl : location = result := Except.ok.inj h
      exact done links location
    | cons component rest ih =>
      intro location h
      cases henter : fs.enter location component with
      | error cause =>
        rw [follow_eq, followWith, henter] at h
        exact nomatch h
      | ok next =>
        by_cases hlink : ∃ target, fs.get? next = some (.link target)
        · obtain ⟨target, htarget⟩ := hlink
          rw [follow_cons_link henter htarget] at h
          split at h
          next hend =>
            obtain rfl : next = result := Except.ok.inj h
            obtain ⟨rfl, hend⟩ := hend
            exact stop links location component next target (by simpa using hend) henter htarget
          next hgoOn =>
            obtain ⟨before, rfl, hbefore⟩ := hdetour _ _ h
            exact jump before location component rest next target result (by simpa using hgoOn) henter
              htarget hbefore
        · have hplain : ∀ target, fs.get? next ≠ some (.link target) :=
            fun target htarget => hlink ⟨target, htarget⟩
          rw [follow_cons henter hplain] at h
          exact step links location component rest next result henter hplain (ih next h)
  induction links generalizing location components with
  | zero => exact way 0 (fun _ _ hzero => nomatch hzero) components location h
  | succ links ih =>
    exact way (links + 1) (fun _ _ hless => ⟨links, rfl, ih hless⟩) components location h

theorem locateBy_eq_ok {atEnd : Bool} {path : String} {location : Location} :
    fs.locateBy atEnd path = .ok location ↔
      (path.toList.contains '\x00' = false ∧ path.utf8ByteSize ≤ maxPathBytes ∧ path ≠ "") ∧
        fs.follow atEnd maxLinks (startOf fs.workingDirectory path) (Text.splitOn '/' path.toList) =
          .ok location := by
  rw [locateBy]
  split
  next hnull => simp_all
  split
  next hlong => simp [Nat.not_le_of_lt hlong]
  split
  next hempty => simp [hempty]
  next hnull hlong hempty =>
    have hshort := Nat.le_of_not_lt hlong
    simp_all

/-- A path that leads somewhere has a last name that stands somewhere. -/
theorem locateName_of_locate {path : String} {location : Location}
    (h : fs.locate path = .ok location) : ∃ place, fs.locateName path = .ok place := by
  obtain ⟨htext, hway⟩ := locateBy_eq_ok.1 h
  suffices hname : ∃ place, fs.follow false maxLinks (startOf fs.workingDirectory path)
      (Text.splitOn '/' path.toList) = .ok place by
    obtain ⟨place, hplace⟩ := hname
    exact ⟨place, locateBy_eq_ok.2 ⟨htext, hplace⟩⟩
  refine follow_induct (P := fun links start components _ =>
    ∃ place, fs.follow false links start components = .ok place) ?done ?step ?stop ?jump hway
  case done => exact fun links start => ⟨start, follow_nil ..⟩
  case step =>
    intro links start component rest next _ henter hplain ih
    rw [follow_cons henter hplain]
    exact ih
  case stop =>
    intro links start component next target hend
    exact nomatch hend
  case jump =>
    intro links start component rest next target _ _ henter hlink ih
    rw [follow_cons_link henter hlink]
    by_cases hrest : rest = []
    · exact ⟨next, by simp [hrest]⟩
    · simpa [hrest, detour_succ] using ih

/-- If no link stands at the place of its last name, a path leads to this place. -/
theorem locate_of_locateName {path : String} {place : Location}
    (h : fs.locateName path = .ok place) (hplace : ∀ target, fs.get? place ≠ some (.link target)) :
    fs.locate path = .ok place := by
  obtain ⟨htext, hway⟩ := locateBy_eq_ok.1 h
  refine locateBy_eq_ok.2 ⟨htext, ?_⟩
  refine follow_induct (P := fun links start components place =>
    (∀ target, fs.get? place ≠ some (.link target)) →
      fs.follow true links start components = .ok place) ?done ?step ?stop ?jump hway hplace
  case done => exact fun links start _ => follow_nil ..
  case step =>
    intro links start component rest next place henter hplain ih hplace
    rw [follow_cons henter hplain]
    exact ih hplace
  case stop =>
    intro links start component next target _ _ hlink hplace
    exact absurd hlink (hplace target)
  case jump =>
    intro links start component rest next target place _ henter hlink ih hplace
    rw [follow_cons_link henter hlink]
    simpa [detour_succ] using ih hplace

theorem find_eq_ok {path : String} {entry : Entry} :
    fs.find path = .ok entry ↔
      ∃ location, fs.locate path = .ok location ∧ fs.get? location = some entry := by
  rw [find]
  cases hlocate : fs.locate path with
  | error cause => simp [bind, Except.bind]
  | ok location => cases hentry : fs.get? location <;> simp [bind, Except.bind, hentry]

/-! ### Further entries -/

/-- A file system with further entries, none of them a link. -/
structure Grows (before after : FileSystem) : Prop where
  workingDirectory_eq : after.workingDirectory = before.workingDirectory
  host_eq : after.host = before.host
  kept : ∀ location entry, before.get? location = some entry → after.get? location = some entry
  link : ∀ location target, after.get? location = some (.link target) →
    before.get? location = some (.link target)

namespace Grows

theorem refl (fs : FileSystem) : Grows fs fs :=
  ⟨rfl, rfl, fun _ _ h => h, fun _ _ h => h⟩

theorem trans {fs'' : FileSystem} (h : Grows fs fs') (h' : Grows fs' fs'') : Grows fs fs'' where
  workingDirectory_eq := h'.workingDirectory_eq.trans h.workingDirectory_eq
  host_eq := h'.host_eq.trans h.host_eq
  kept := fun location entry hentry => h'.kept location entry (h.kept location entry hentry)
  link := fun location target hlink => h.link location target (h'.link location target hlink)

theorem enter (hfs : Grows fs fs') {location next : Location} {component : List Char}
    (h : fs.enter location component = .ok next) : fs'.enter location component = .ok next := by
  rw [FileSystem.enter] at h ⊢
  cases hentry : fs.get? location with
  | none => rw [hentry] at h; exact nomatch h
  | some entry => rwa [hfs.kept location entry hentry, ← hentry]

theorem follow (hfs : Grows fs fs') {atEnd : Bool} {links : Nat} {start location : Location}
    {components : List (List Char)} (h : fs.follow atEnd links start components = .ok location) :
    fs'.follow atEnd links start components = .ok location := by
  refine follow_induct (P := fun links start components location =>
    fs'.follow atEnd links start components = .ok location) ?done ?step ?stop ?jump h
  case done => exact fun links start => follow_nil ..
  case step =>
    intro links start component rest next location henter hplain ih
    rw [follow_cons (hfs.enter henter) fun target hlink =>
      hplain target (hfs.link next target hlink)]
    exact ih
  case stop =>
    intro links start component next target hend henter hlink
    rw [follow_cons_link (hfs.enter henter) (hfs.kept next _ hlink)]
    simp [hend]
  case jump =>
    intro links start component rest next target location hgoOn henter hlink ih
    rw [follow_cons_link (hfs.enter henter) (hfs.kept next _ hlink), if_neg (by simpa using hgoOn)]
    exact ih

/-- A path that leads somewhere leads to the same place in a file system with further entries. -/
theorem locateBy (hfs : Grows fs fs') {atEnd : Bool} {path : String} {location : Location}
    (h : fs.locateBy atEnd path = .ok location) : fs'.locateBy atEnd path = .ok location := by
  obtain ⟨htext, hway⟩ := locateBy_eq_ok.1 h
  rw [← hfs.workingDirectory_eq] at hway
  exact locateBy_eq_ok.2 ⟨htext, hfs.follow hway⟩

theorem locate (hfs : Grows fs fs') {path : String} {location : Location}
    (h : fs.locate path = .ok location) : fs'.locate path = .ok location :=
  hfs.locateBy h

/-- A path that leads to something leads to the same in a file system with further entries. -/
theorem find (hfs : Grows fs fs') {path : String} {entry : Entry} (h : fs.find path = .ok entry) :
    fs'.find path = .ok entry := by
  obtain ⟨location, hlocate, hentry⟩ := find_eq_ok.1 h
  exact find_eq_ok.2 ⟨location, hfs.locate hlocate, hfs.kept location entry hentry⟩

end Grows

/-- What is put where nothing is adds to the entries, unless it is a link. -/
theorem grows_put {location : Location} {entry : Entry} (hnone : fs.get? location = none)
    (hentry : ∀ target, entry ≠ .link target) : Grows fs (fs.put location entry) := by
  have hput := fun probe => get?_put fs entry probe (ne_nil_of_get?_eq_none hnone)
  refine ⟨rfl, rfl, fun probe old hold => ?kept, fun probe target hlink => ?link⟩
  case kept =>
    have hne : probe ≠ location := by
      rintro rfl
      rw [hnone] at hold
      exact nomatch hold
    rw [hput, if_neg hne]
    exact hold
  case link =>
    rw [hput] at hlink
    split at hlink
    next => exact absurd (Option.some.inj hlink) (hentry target)
    next => exact hlink

/-! ### Writing a file -/

/-- The file that a path leads to, if it leads to one. -/
def fileAt? (fs : FileSystem) (path : String) : Option FileId :=
  match fs.find path with
  | .ok (.file id) => some id
  | _ => none

theorem fileAt?_eq_some {path : String} {id : FileId} :
    fs.fileAt? path = some id ↔ fs.find path = .ok (.file id) := by
  rw [fileAt?]
  split <;> simp_all

/-- A path leads to a file with the given contents. -/
def Holds (fs : FileSystem) (path : String) (contents : List UInt8) : Prop :=
  ∃ id, fs.fileAt? path = some id ∧ fs.bytes id = contents

/-- What is read from a file, unless the system refuses to read it, are its contents. -/
theorem Holds.readFile {path : String} {contents : List UInt8} (h : fs.Holds path contents)
    (hread : fs.ask .read path = .ok ()) : fs.readFile path = .ok contents := by
  obtain ⟨id, hfile, rfl⟩ := h
  simp only [FileSystem.readFile, hread, bind, Except.bind, fileAt?_eq_some.1 hfile]

/-- A path leads to a file or to a device. -/
def IsSink (fs : FileSystem) (path : String) : Prop :=
  (∃ id, fs.fileAt? path = some id) ∨ ∃ output, fs.find path = .ok (.device output)

/-- Where a path leads after further entries were made, if it led to a file or a device before. -/
theorem IsSink.find_eq {path : String} (h : fs.IsSink path) (hgrows : Grows fs fs') :
    fs'.find path = fs.find path := by
  rcases h with ⟨id, hfile⟩ | ⟨output, hdevice⟩
  · have hfind := fileAt?_eq_some.1 hfile
    rw [hfind, hgrows.find hfind]
  · rw [hdevice, hgrows.find hdevice]

theorem IsSink.fileAt?_eq {path : String} (h : fs.IsSink path) (hgrows : Grows fs fs') :
    fs'.fileAt? path = fs.fileAt? path := by
  rw [fileAt?, fileAt?, h.find_eq hgrows]

theorem IsSink.mono {path : String} (h : fs.IsSink path) (hgrows : Grows fs fs') :
    fs'.IsSink path := by
  rw [IsSink, h.fileAt?_eq hgrows, h.find_eq hgrows]
  exact h

/-- No link stands at the place of the last name of a path. -/
def IsDirect (fs : FileSystem) (path : String) : Prop :=
  ∀ place target, fs.locateName path = .ok place → fs.get? place ≠ some (.link target)

/-- A file has more than one name. -/
def IsShared (fs : FileSystem) (id : FileId) : Prop :=
  ∃ location other, location ≠ other ∧
    fs.get? location = some (.file id) ∧ fs.get? other = some (.file id)

/-- All that comes of writing contents to the file or the device that a path leads to, where a new file
is made if nothing was there. -/
structure IsWritten (before : FileSystem) (path : String) (contents : List UInt8)
    (after : FileSystem) : Prop where
  grows : Grows before after
  sink : after.IsSink path
  bytes : ∀ id, after.bytes id =
    if after.fileAt? path = some id then contents else before.bytes id
  added : ∀ location entry, before.get? location = none → after.get? location = some entry →
    after.locate path = .ok location ∧ ∃ id, entry = .file id
  shared : ∀ id, after.IsShared id → before.IsShared id

/-- All that comes of it when a location stands for a file that it stood for before, or for a new one
if nothing was there. -/
structure IsNamed (before : FileSystem) (location : Location) (id : FileId) (after : FileSystem) : Prop
    where
  old : before.get? location = some (.file id) ∨
    before.get? location = none ∧ ∀ other, before.get? other ≠ some (.file id)
  workingDirectory_eq : after.workingDirectory = before.workingDirectory
  host_eq : after.host = before.host
  get?_eq : ∀ probe, after.get? probe = if probe = location then some (.file id) else before.get? probe

namespace IsNamed

variable {location : Location} {id : FileId}

theorem grows (h : IsNamed fs location id fs') : Grows fs fs' := by
  refine ⟨h.workingDirectory_eq, h.host_eq, fun probe entry hentry => ?kept,
    fun probe target hlink => ?link⟩
  case kept =>
    rw [h.get?_eq]
    split
    next hprobe =>
      rcases h.old with hold | ⟨hnone, -⟩
      · rw [← hentry, hprobe, hold]
      · rw [hprobe, hnone] at hentry
        exact nomatch hentry
    next => exact hentry
  case link =>
    rw [h.get?_eq] at hlink
    split at hlink
    next => exact nomatch hlink
    next => exact hlink

/-- No file has a further name. -/
theorem shared (h : IsNamed fs location id fs') {probe : FileId} (hshared : fs'.IsShared probe) :
    fs.IsShared probe := by
  obtain ⟨first, second, hne, hfirst, hsecond⟩ := hshared
  rcases h.old with hold | ⟨-, hfresh⟩
  · have hsame : ∀ place, fs'.get? place = fs.get? place := by
      intro place
      rw [h.get?_eq]
      split
      next hplace => rw [hplace, hold]
      next => rfl
    exact ⟨first, second, hne, hsame first ▸ hfirst, hsame second ▸ hsecond⟩
  · -- the new file has only one name, so both names are old ones
    have hname : ∀ place other, place ≠ other → fs'.get? place = some (.file probe) →
        fs'.get? other = some (.file probe) → fs.get? place = some (.file probe) := by
      intro place other hne hplace hother
      rw [h.get?_eq] at hplace hother
      split at hplace
      next hnew =>
        obtain rfl : id = probe := Entry.file.inj (Option.some.inj hplace)
        rw [if_neg fun h => hne (hnew.trans h.symm)] at hother
        exact absurd hother (hfresh other)
      next => exact hplace
    exact ⟨first, second, hne, hname first second hne hfirst hsecond,
      hname second first hne.symm hsecond hfirst⟩

/-- Contents are written to the file that a location stands for. -/
theorem isWritten (h : IsNamed fs location id fs') {path : String} {contents : List UInt8}
    (hlocate : fs.locate path = .ok location)
    (hbytes : ∀ probe, fs'.bytes probe = if probe = id then contents else fs.bytes probe) :
    IsWritten fs path contents fs' := by
  have hfile : fs'.fileAt? path = some id :=
    fileAt?_eq_some.2 (find_eq_ok.2 ⟨location, h.grows.locate hlocate, by rw [h.get?_eq, if_pos rfl]⟩)
  refine ⟨h.grows, .inl ⟨id, hfile⟩, fun probe => ?bytes, fun probe entry hnone hentry => ?added,
    fun probe => h.shared⟩
  case bytes =>
    rw [hbytes, hfile]
    simp only [Option.some.injEq, eq_comm]
  case added =>
    rw [h.get?_eq] at hentry
    split at hentry
    next hprobe => exact ⟨hprobe ▸ h.grows.locate hlocate, id, (Option.some.inj hentry).symm⟩
    next =>
      rw [hnone] at hentry
      exact nomatch hentry

end IsNamed

/-- What was written to an opened file is all that comes of it. -/
theorem isWritten_of_openFile {path : String} {opened : FileSystem} {id : Option FileId}
    (h : fs.openFile path = .ok (opened, id)) (contents : List UInt8) :
    IsWritten fs path contents (opened.fill contents id) := by
  rw [openFile] at h
  split at h
  next => exact nomatch h
  next location hasked =>
    have hlocate : fs.locate path = .ok location := by
      cases hask : fs.ask .write path with
      | error cause => rw [hask] at hasked; exact nomatch hasked
      | ok _ => rw [hask] at hasked; exact hasked
    split at h
    next => exact nomatch h
    next => exact nomatch h
    next output hdevice =>
      obtain ⟨rfl, rfl⟩ := Prod.mk.inj (Except.ok.inj h)
      have hfind : fs.find path = .ok (.device output) :=
        find_eq_ok.2 ⟨location, hlocate, hdevice⟩
      refine ⟨.refl fs, .inr ⟨output, hfind⟩, fun probe => ?_, fun probe entry hnone hentry => ?_,
        fun _ h => h⟩
      · have hnot : fs.fileAt? path ≠ some probe := by
          rw [Ne, fileAt?_eq_some, hfind]
          exact nofun
        exact (if_neg hnot).symm
      · rw [fill, hnone] at hentry
        exact nomatch hentry
    next id hfile =>
      obtain ⟨rfl, rfl⟩ := Prod.mk.inj (Except.ok.inj h)
      have hnamed : IsNamed fs location id ((fs.setBytes id []).fill contents (some id)) := by
        refine ⟨.inl hfile, rfl, rfl, fun probe => ?_⟩
        rw [fill, get?_setBytes, get?_setBytes]
        split
        next hprobe => rw [hprobe, hfile]
        next => rfl
      refine hnamed.isWritten hlocate fun probe => ?_
      rw [fill, bytes_setBytes, bytes_setBytes]
      split <;> rfl
    next hnone =>
      obtain ⟨rfl, rfl⟩ := Prod.mk.inj (Except.ok.inj h)
      have hnamed : IsNamed fs location fs.freshId
          ((fs.create location []).fill contents (some fs.freshId)) := by
        refine ⟨.inr ⟨hnone, get?_ne_freshId fs⟩, rfl, rfl, fun probe => ?_⟩
        rw [fill, create, get?_setBytes, get?_setBytes, get?_put fs _ _ (ne_nil_of_get?_eq_none hnone)]
      refine hnamed.isWritten hlocate fun probe => ?_
      rw [fill, create, bytes_setBytes, bytes_setBytes, bytes_put]
      split <;> rfl

/-- Writing a file changes nothing if the file cannot be opened.  Else either the contents are written,
or, if the system breaks off the writing, a beginning of them. -/
theorem writeFile_cases (fs : FileSystem) (path : String) (contents : List UInt8) :
    (∃ e, fs.openFile path = .error e ∧ fs.writeFile path contents = (fs, some e)) ∨
    (∃ after, IsWritten fs path contents after ∧ fs.writeFile path contents = (after, none)) ∨
    ∃ after opened id taken cause, fs.openFile path = .ok (opened, id) ∧
      fs.host.interruption? opened.toFiles path contents = some (taken, cause) ∧
        IsWritten fs path (contents.take taken) after ∧
        fs.writeFile path contents = (after, some ⟨cause, none⟩) := by
  rw [writeFile]
  cases hopen : fs.openFile path with
  | error e => exact .inl ⟨e, rfl, rfl⟩
  | ok pair =>
    obtain ⟨opened, id⟩ := pair
    have hwritten := isWritten_of_openFile hopen
    have hhost : opened.host = fs.host := by
      cases id <;> exact (hwritten []).grows.host_eq
    dsimp only
    cases hbreak : opened.host.interruption? opened.toFiles path contents with
    | none => exact .inr (.inl ⟨_, hwritten contents, rfl⟩)
    | some broken =>
      obtain ⟨taken, cause⟩ := broken
      rw [hhost] at hbreak
      exact .inr (.inr ⟨_, opened, id, taken, cause, rfl, hbreak, hwritten (contents.take taken), rfl⟩)

/-- A system that refuses nothing and breaks off nothing writes a file wherever no directory is. -/
theorem writeFile_of_willing {path : String} (contents : List UInt8) {location : Location}
    (hwilling : fs.host = .willing) (hlocate : fs.locate path = .ok location)
    (hentry : ∀ entry, fs.get? location = some entry → entry.isFile = true) :
    ∃ after, IsWritten fs path contents after ∧ fs.writeFile path contents = (after, none) := by
  rcases writeFile_cases fs path contents with ⟨e, hopen, -⟩ | hwritten |
    ⟨_, _, _, _, _, -, hbreak, -⟩
  · have hask : fs.ask .write path = .ok () := by
      rw [ask, hwilling]
      rfl
    rw [openFile, hask] at hopen
    simp only [bind, Except.bind, hlocate] at hopen
    cases hget : fs.get? location with
    | none => simp only [hget] at hopen; exact nomatch hopen
    | some entry =>
      have hfile := hentry entry hget
      cases entry with
      | file id => simp only [hget] at hopen; exact nomatch hopen
      | directory | link | device => exact nomatch hfile
  · exact hwritten
  · rw [hwilling] at hbreak
    exact nomatch hbreak

end DeclSplit.FileSystem
