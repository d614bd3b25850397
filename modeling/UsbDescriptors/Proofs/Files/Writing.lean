import UsbDescriptors.OrderedMap
import UsbDescriptors.Proofs.Files.Paths

/-!
# Writing files

What the operations on a tree of files leave of it. Making directories puts directories where
nothing was and touches nothing else. Writing a file changes the place of this file only. From
this follows what holds behind a sequence of files that are written to one directory: `Wrote` is
kept from each of them to the next, as their names are different.
-/

namespace UsbDescriptors.FileTree

open Location

variable {tree before middle after : FileTree} {location place : Location}
  {directory path name text : String} {files rest : OrderedMap String}

theorem get?_of_unnamed (unnamed : location.names = []) :
    tree.get? location = some .directory := by
  simp [get?, unnamed]

theorem get?_put_self {entry : FileEntry} (named : location.names ≠ []) :
    (tree.put location entry).get? location = some entry := by
  have cleared : (tree.entries.filter fun present => present.1 ≠ location).find?
      (fun present => present.1 = location) = none := by
    simp [List.find?_eq_none]
  rw [get?, put, if_neg (by simpa using named), List.find?_append, cleared]
  simp

theorem get?_put_of_ne {entry : FileEntry} (different : place ≠ location) :
    (tree.put location entry).get? place = tree.get? place := by
  have others : (tree.entries.filter fun present => present.1 ≠ location).find?
      (fun present => present.1 = place) = tree.entries.find? fun present => present.1 = place := by
    rw [List.find?_filter]
    congr
    funext present
    by_cases own : present.1 = place <;> simp [own, different]
  rw [get?, get?, put, List.find?_append, others]
  simp [different.symm]

/-- A place holds what it held before, or a directory where nothing was. -/
def Keeps (before after : FileTree) (location : Location) : Prop :=
  after.get? location = before.get? location ∨
    before.get? location = none ∧ after.get? location = some .directory

theorem Keeps.refl (tree : FileTree) (location : Location) : tree.Keeps tree location :=
  .inl rfl

theorem Keeps.present {entry : FileEntry} (kept : before.Keeps after location)
    (present : before.get? location = some entry) : after.get? location = some entry := by
  rcases kept with same | ⟨absent, -⟩
  · exact same.trans present
  · rw [absent] at present
    cases present

theorem Keeps.trans (first : before.Keeps middle location)
    (second : middle.Keeps after location) : before.Keeps after location := by
  rcases first with same | ⟨absent, made⟩
  · rcases second with still | ⟨absent, made⟩
    · exact .inl (still.trans same)
    · exact .inr ⟨same ▸ absent, made⟩
  · exact .inr ⟨absent, second.present made⟩

section Directories

variable {names : List String}

theorem keeps_of_ensure (ensured : before.ensure place = .ok after) (location : Location) :
    before.Keeps after location := by
  unfold ensure at ensured
  split at ensured
  next present =>
    cases ensured
    exact .refl before location
  next present => cases ensured
  next absent =>
    cases ensured
    by_cases own : location = place
    · subst own
      have named : location.names ≠ [] := fun unnamed => by
        rw [get?_of_unnamed unnamed] at absent
        cases absent
      exact .inr ⟨absent, get?_put_self named⟩
    · exact .inl (get?_put_of_ne own)

theorem keeps_of_ensureDirectory (ensured : before.ensureDirectory place names = .ok after)
    (location : Location) : before.Keeps after location := by
  rcases outcome_bind_iff.mp ensured with ⟨target, -, ensured⟩
  exact keeps_of_ensure ensured location

theorem keeps_ensureEach (tree : FileTree) (place : Location) (names : List String)
    (location : Location) : tree.Keeps (tree.ensureEach place names).2 location := by
  induction names generalizing tree place with
  | nil => exact .refl tree location
  | cons name rest ih =>
      rw [ensureEach]
      split
      next error refused => exact .refl tree location
      next target step =>
        split
        next error refused => exact .refl tree location
        next grown ensured => exact (keeps_of_ensure ensured location).trans (ih grown target)

theorem keeps_update_ensureDirectory (tree : FileTree) (place : Location) (names : List String)
    (location : Location) :
    tree.Keeps ((update (ensureDirectory · place names)).run tree).2 location := by
  simp only [update, StateT.run]
  split
  next changed ensured => exact keeps_of_ensureDirectory ensured location
  next error refused => exact .refl tree location

/-- Whether or not they can all be made, making directories touches no file. -/
theorem keeps_createDirectories (tree : FileTree) (path : String) (location : Location) :
    tree.Keeps ((createDirectories path).run tree).2 location := by
  have onTheWay := keeps_ensureEach tree (start path) (Location.onTheWay (namesIn path)) location
  simp only [createDirectories, StateT.run]
  split
  next empty => exact .refl tree location
  next present =>
    split
    next long => exact .refl tree location
    next fits =>
      split
      next grown ensured => exact keeps_of_ensureDirectory ensured location
      next missing =>
        split
        next grown ensured =>
          rw [ensured] at onTheWay
          exact onTheWay.trans (keeps_update_ensureDirectory grown _ _ location)
        next error grown refused =>
          rw [refused] at onTheWay
          exact onTheWay
      next error refused => exact .refl tree location

end Directories

/-- A file can be written where a path leads: it is in a directory, and is none itself. -/
structure Writable (tree : FileTree) (path : String) (location : Location) : Prop where
  located : tree.locate path = .ok location
  free : tree.get? location ≠ some .directory
  parent : tree.get? location.parent = some .directory

/-- A file is written if and only if it can be, and this changes its place only. -/
theorem writeText_ok_iff : tree.writeText path text = .ok after ↔
    ∃ location, tree.Writable path location ∧ tree.put location (.file text.toUTF8) = after := by
  unfold writeText
  constructor
  · intro wrote
    rcases outcome_bind_iff.mp wrote with ⟨location, located, written⟩
    split at written
    next present => cases written
    next free =>
      split at written
      next parent => exact ⟨location, ⟨located, free, parent⟩, Except.ok.inj written⟩
      next content parent => cases written
      next absent => cases written
  · rintro ⟨location, ⟨located, free, parent⟩, rfl⟩
    refine outcome_bind_iff.mpr ⟨location, located, ?_⟩
    split
    next present => exact absurd present free
    next => simp only [parent]

theorem writeText_of_directory (located : tree.locate path = .ok location)
    (present : tree.get? location = some .directory) :
    tree.writeText path text = .error .isDirectory := by
  rw [writeText, located]
  simp only [bind, Except.bind, present]

namespace Writable

variable {content : ByteArray}

theorem named (writable : tree.Writable path location) : location.names ≠ [] :=
  fun unnamed => writable.free (get?_of_unnamed unnamed)

theorem writeText (writable : tree.Writable path location) (text : String) :
    tree.writeText path text = .ok (tree.put location (.file text.toUTF8)) :=
  writeText_ok_iff.mpr ⟨location, writable, rfl⟩

theorem directory_put (writable : tree.Writable path location)
    (present : tree.get? place = some .directory) :
    (tree.put location (.file content)).get? place = some .directory := by
  have other : place ≠ location := by
    rintro rfl
    exact writable.free present
  rw [get?_put_of_ne other, present]

/-- Behind a file at another place a file can be written as before. -/
theorem behind {otherPath : String} (writable : tree.Writable path location)
    (other : tree.Writable otherPath place) (apart : location ≠ place) :
    (tree.put place (.file content)).Writable path location where
  located := locate_of_directories (fun _ present => other.directory_put present) writable.located
  free := by
    rw [get?_put_of_ne apart]
    exact writable.free
  parent := other.directory_put writable.parent

end Writable

theorem fromUTF8?_toUTF8 (text : String) : String.fromUTF8? text.toUTF8 = some text := by
  rw [String.fromUTF8?, String.toUTF8_eq_toByteArray, dif_pos text.isValidUTF8]
  rfl

theorem readText_of_file (located : tree.locate path = .ok location)
    (held : tree.get? location = some (.file text.toUTF8)) : tree.readText path = .ok text := by
  refine outcome_bind_iff.mpr ⟨location, located, ?_⟩
  simp only [held, fromUTF8?_toUTF8]

/-- Exactly the files of a list were written to a directory. Directories may have been made. -/
structure Wrote (before after : FileTree) (directory : String) (files : OrderedMap String) :
    Prop where
  /-- Every file of the list has its text. -/
  holds : ∀ file ∈ files, after.readText (joinPath directory file.1) = .ok file.2
  /-- No directory is gone. -/
  directories : ∀ location, before.get? location = some .directory →
    after.get? location = some .directory
  /-- Every place but those of the files of the list is as it was. -/
  keeps : ∀ location, (∀ file ∈ files, after.locate (joinPath directory file.1) ≠ .ok location) →
    before.Keeps after location

theorem wrote_nothing (kept : ∀ location, before.Keeps after location) :
    before.Wrote after directory [] where
  holds := List.forall_mem_nil _
  directories := fun location => (kept location).present
  keeps := fun location _ => kept location

theorem Wrote.behind (kept : ∀ location, before.Keeps middle location)
    (wrote : middle.Wrote after directory files) : before.Wrote after directory files where
  holds := wrote.holds
  directories := fun location present =>
    wrote.directories location ((kept location).present present)
  keeps := fun location other => (kept location).trans (wrote.keeps location other)

/-- The file that is written first is still there behind the others, at a place of its own. -/
theorem Wrote.cons (isName : IsFileName name) (names : ∀ file ∈ rest, IsFileName file.1)
    (new : name ∉ rest.keys) (first : before.writeText (joinPath directory name) text = .ok middle)
    (later : middle.Wrote after directory rest) :
    before.Wrote after directory ((name, text) :: rest) := by
  rcases writeText_ok_iff.mp first with ⟨location, writable, rfl⟩
  have kept : ∀ place, before.get? place = some .directory →
      after.get? place = some .directory := fun place present =>
    later.directories place (writable.directory_put present)
  have located : after.locate (joinPath directory name) = .ok location :=
    locate_of_directories kept writable.located
  have held : after.get? location = some (.file text.toUTF8) := by
    -- a later file at this place would have this name
    refine (later.keeps location fun file mem led => ?_).present (get?_put_self writable.named)
    have same := locate_joinPath_inj (names file mem) isName led located
    exact new (same ▸ List.mem_map_of_mem mem)
  constructor
  · intro file mem
    rcases List.mem_cons.mp mem with rfl | mem
    · exact readText_of_file located held
    · exact later.holds file mem
  · exact kept
  · intro place other
    rcases List.forall_mem_cons.mp other with ⟨apart, others⟩
    have different : place ≠ location := by
      rintro rfl
      exact apart located
    have same : before.Keeps (before.put location (.file text.toUTF8)) place :=
      .inl (get?_put_of_ne different)
    exact same.trans (later.keeps place others)

/-- Writing files to a directory came to an end before all of them were written. -/
inductive WritingStops (before after : FileTree) (directory : String)
    (files : OrderedMap String) : FileError → Prop
  /-- The directory cannot be made, and no file is touched. -/
  | atDirectory {error : FileError}
      (refused : (createDirectories directory).run before = (.error error, after))
      (kept : before.Wrote after directory []) : WritingStops before after directory files error
  /-- A file cannot be written, and exactly those in front of it are. -/
  | atFile {written rest : OrderedMap String} {name text : String} {error : FileError}
      (split : files = written ++ (name, text) :: rest)
      (wrote : before.Wrote after directory written)
      (refused : after.writeText (joinPath directory name) text = .error error) :
      WritingStops before after directory files error

end UsbDescriptors.FileTree
