import DeclSplit.Proofs.FileSystem

/-!
# Making directories

Making a directory adds directories where nothing was, each where a leading part of the path leads, and
changes nothing else.  This holds also if it fails on the way.

* `FileSystem.IsOnWay` — the locations that the leading parts of a path lead to;
* `FileSystem.AddsDirectories` — a file system with further directories on the way of a path;
* `FileSystem.makeDirectories_adds` — all that making directories does, whether or not it fails;
* `FileSystem.makeDirectories_of_find` — making a directory that is there changes nothing.
-/

namespace DeclSplit.FileSystem

variable {fs fs' : FileSystem}

/-! ### Further directories -/

/-- A leading part of a path leads to the location. -/
def IsOnWay (fs : FileSystem) (path : Path) (location : Location) : Prop :=
  ∃ start, start <+: path.components ∧ fs.locate (Path.toString ⟨path.root, start⟩) = .ok location

theorem IsOnWay.mono {path : Path} {location : Location} (h : fs.IsOnWay path location)
    (hgrows : Grows fs fs') : fs'.IsOnWay path location := by
  obtain ⟨start, hstart, hlocate⟩ := h
  exact ⟨start, hstart, hgrows.locate hlocate⟩

/-- A file system with further directories, each where nothing was and on the way of a path. -/
structure AddsDirectories (before : FileSystem) (path : Path) (after : FileSystem) : Prop where
  grows : Grows before after
  bytes : ∀ id, after.bytes id = before.bytes id
  added : ∀ location entry, before.get? location = none → after.get? location = some entry →
    entry = .directory ∧ after.IsOnWay path location
  shared : ∀ id, after.IsShared id → before.IsShared id

namespace AddsDirectories

theorem refl (fs : FileSystem) (path : Path) : AddsDirectories fs path fs := by
  refine ⟨.refl fs, fun _ => rfl, fun location entry hnone hentry => ?_, fun _ h => h⟩
  rw [hnone] at hentry
  exact nomatch hentry

theorem trans {path : Path} {fs'' : FileSystem} (h : AddsDirectories fs path fs')
    (h' : AddsDirectories fs' path fs'') : AddsDirectories fs path fs'' where
  grows := h.grows.trans h'.grows
  bytes := fun id => (h'.bytes id).trans (h.bytes id)
  added := by
    intro location entry hnone hentry
    cases hbetween : fs'.get? location with
    | none => exact h'.added location entry hbetween hentry
    | some old =>
      obtain ⟨rfl, hway⟩ := h.added location old hnone hbetween
      have hkept := h'.grows.kept location _ hbetween
      exact ⟨Option.some.inj (hentry.symm.trans hkept), hway.mono h'.grows⟩
  shared := fun id hshared => h.shared id (h'.shared id hshared)

/-- What is added on the way of the directory of a path is added on the way of the path. -/
theorem mono {path longer : Path} (h : AddsDirectories fs path fs') (hroot : longer.root = path.root)
    (hcomponents : path.components <+: longer.components) : AddsDirectories fs longer fs' := by
  refine ⟨h.grows, h.bytes, fun location entry hnone hentry => ?_, h.shared⟩
  obtain ⟨hdirectory, start, hstart, hlocate⟩ := h.added location entry hnone hentry
  exact ⟨hdirectory, start, hstart.trans hcomponents, by rw [hroot]; exact hlocate⟩

end AddsDirectories

/-! ### One directory -/

/-- Making one directory puts it where its path leads, where there is nothing. -/
theorem makeDirectory_eq_ok {path : String} (h : fs.makeDirectory path = .ok fs') :
    ∃ location, fs.locate path = .ok location ∧ fs.get? location = none ∧
      fs.put location .directory = fs' := by
  rw [makeDirectory] at h
  split at h
  next => exact nomatch h
  next location hasked =>
    have hname : fs.locateName path = .ok location := by
      cases hask : fs.ask .makeDirectory path with
      | error cause => rw [hask] at hasked; exact nomatch hasked
      | ok _ => rw [hask] at hasked; exact hasked
    split at h
    next => exact nomatch h
    next hnone =>
      have hlocate := locate_of_locateName hname fun target => by
        rw [hnone]
        exact nofun
      exact ⟨location, hlocate, hnone, Except.ok.inj h⟩

theorem makeDirectory_adds {path : Path} (h : fs.makeDirectory path.toString = .ok fs') :
    AddsDirectories fs path fs' ∧ fs'.find path.toString = .ok .directory := by
  obtain ⟨location, hlocate, hnone, rfl⟩ := makeDirectory_eq_ok h
  have hgrows : Grows fs (fs.put location .directory) := grows_put hnone fun _ => nofun
  have hput := fun probe => get?_put fs .directory probe (ne_nil_of_get?_eq_none hnone)
  have hthere := hgrows.locate hlocate
  refine ⟨⟨hgrows, fun _ => rfl, fun probe entry hprobe hentry => ?added, ?shared⟩,
    find_eq_ok.2 ⟨location, hthere, by rw [hput, if_pos rfl]⟩⟩
  case added =>
    rw [hput] at hentry
    split at hentry
    next hnew =>
      rw [hnew]
      exact ⟨(Option.some.inj hentry).symm, path.components, List.prefix_rfl, hthere⟩
    next =>
      rw [hprobe] at hentry
      exact nomatch hentry
  case shared =>
    rintro id ⟨first, second, hne, hfirst, hsecond⟩
    have hold : ∀ place, (fs.put location .directory).get? place = some (.file id) →
        fs.get? place = some (.file id) := by
      intro place hplace
      rw [hput] at hplace
      split at hplace
      next => exact nomatch hplace
      next => exact hplace
    exact ⟨first, second, hne, hold first hfirst, hold second hsecond⟩

theorem find_of_isDirectory {path : String} (h : fs.isDirectory path = .ok true) :
    fs.find path = .ok .directory := by
  rw [isDirectory, isThere] at h
  split at h
  next entry hlook =>
    have hdirectory : entry = .directory := of_decide_eq_true (Except.ok.inj h)
    rw [look] at hlook
    cases hask : fs.ask .look path with
    | error cause => rw [hask] at hlook; exact nomatch hlook
    | ok _ =>
      rw [hask] at hlook
      rw [← hdirectory]
      exact hlook
  next => split at h <;> exact nomatch h

/-- What comes of trying to make a directory: it is made, or it is there, or nothing happens. -/
theorem settle_adds (fs : FileSystem) (path : Path) :
    AddsDirectories fs path (fs.settle path.toString (fs.makeDirectory path.toString)).1 ∧
      ((fs.settle path.toString (fs.makeDirectory path.toString)).2 = none →
        (fs.settle path.toString (fs.makeDirectory path.toString)).1.find path.toString =
          .ok .directory) := by
  cases hmake : fs.makeDirectory path.toString with
  | ok made =>
    obtain ⟨hadds, hfind⟩ := makeDirectory_adds hmake
    exact ⟨hadds, fun _ => hfind⟩
  | error e =>
    rw [settle]
    split
    next => exact ⟨.refl fs path, nofun⟩
    next =>
      cases hthere : fs.isDirectory path.toString with
      | error e => exact ⟨.refl fs path, nofun⟩
      | ok there =>
        cases there with
        | false => exact ⟨.refl fs path, nofun⟩
        | true => exact ⟨.refl fs path, fun _ => find_of_isDirectory hthere⟩

/-! ### A directory with those on the way to it -/

theorem makeDirectoriesAt_adds (fs : FileSystem) (root : Path.Root) (components : List String) :
    AddsDirectories fs ⟨root, components.reverse⟩ (makeDirectoriesAt root fs components).1 ∧
      ((makeDirectoriesAt root fs components).2 = none →
        (makeDirectoriesAt root fs components).1.find (Path.toString ⟨root, components.reverse⟩) =
          .ok .directory) := by
  induction components with
  | nil => exact settle_adds fs ⟨root, []⟩
  | cons name outer ih =>
    have hsettle := settle_adds fs ⟨root, (name :: outer).reverse⟩
    rw [makeDirectoriesAt]
    cases hmake : fs.makeDirectory (Path.toString ⟨root, (name :: outer).reverse⟩) with
    | ok made =>
      rw [hmake] at hsettle
      exact hsettle
    | error e =>
      rw [hmake] at hsettle
      obtain ⟨cause, path⟩ := e
      by_cases habsent : cause = .notFound
      · subst habsent
        dsimp only
        have houter : AddsDirectories fs ⟨root, (name :: outer).reverse⟩
            (makeDirectoriesAt root fs outer).1 :=
          ih.1.mono rfl (by rw [List.reverse_cons]; exact List.prefix_append _ _)
        split
        next between e hbetween =>
          rw [hbetween] at houter
          exact ⟨houter, nofun⟩
        next between hbetween =>
          rw [hbetween] at houter
          obtain ⟨hadds, hfind⟩ := settle_adds between ⟨root, (name :: outer).reverse⟩
          exact ⟨houter.trans hadds, hfind⟩
      · split
        next hnotFound => exact absurd (FileSystem.Error.mk.inj (Except.error.inj hnotFound)).1 habsent
        next => exact hsettle

/-- Making a directory adds directories on the way to it, whether or not it fails. -/
theorem makeDirectories_adds (fs : FileSystem) (path : Path) :
    AddsDirectories fs path (fs.makeDirectories path).1 := by
  have hadds := (makeDirectoriesAt_adds fs path.root path.components.reverse).1
  rw [List.reverse_reverse] at hadds
  exact hadds

theorem find_of_makeDirectories {path : Path} (h : (fs.makeDirectories path).2 = none) :
    (fs.makeDirectories path).1.find path.toString = .ok .directory := by
  have hfind := (makeDirectoriesAt_adds fs path.root path.components.reverse).2 h
  rw [List.reverse_reverse] at hfind
  exact hfind

/-- Making a directory that is there changes nothing if the system is willing to look. -/
theorem makeDirectories_of_find {path : Path} (hwilling : fs.host = .willing)
    (h : fs.find path.toString = .ok .directory) : fs.makeDirectories path = (fs, none) := by
  have hask : ∀ request, fs.ask request path.toString = .ok () := by
    intro request
    rw [ask, hwilling]
    rfl
  have hmake : fs.makeDirectory path.toString = .error ⟨.alreadyExists, path.toString⟩ := by
    obtain ⟨location, hlocate, hentry⟩ := find_eq_ok.1 h
    obtain ⟨place, hplace⟩ := locateName_of_locate hlocate
    rw [makeDirectory, hask]
    simp only [bind, Except.bind, hplace]
    cases hget : fs.get? place with
    | some entry => rfl
    | none =>
      have hsame := locate_of_locateName hplace fun target hlink => by cases hget.symm.trans hlink
      obtain rfl : location = place := Except.ok.inj (hlocate.symm.trans hsame)
      rw [hget] at hentry
      cases hentry
  have hthere : fs.isDirectory path.toString = .ok true := by
    rw [isDirectory, isThere, look, hask]
    simp only [bind, Except.bind, h, decide_true]
  have hsettle : fs.settle path.toString (.error ⟨.alreadyExists, path.toString⟩) = (fs, none) := by
    simp [settle, hthere]
  have hpath : path.toString = Path.toString ⟨path.root, path.components.reverse.reverse⟩ := by
    rw [List.reverse_reverse]
  rw [hpath] at hmake hsettle
  rw [makeDirectories]
  cases hcomponents : path.components.reverse with
  | nil =>
    rw [hcomponents] at hmake hsettle
    rw [makeDirectoriesAt, ← List.reverse_nil, hmake]
    exact hsettle
  | cons name outer =>
    rw [hcomponents] at hmake hsettle
    rw [makeDirectoriesAt, hmake]
    exact hsettle

end DeclSplit.FileSystem
