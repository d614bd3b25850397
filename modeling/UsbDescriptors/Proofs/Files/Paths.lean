import UsbDescriptors.Files.FileTree
import UsbDescriptors.Proofs.Outcomes

/-!
# Paths of files

The path of a file in a directory leads through the places that the path of the directory leads
through, and from the last of them to the child with the name of the file. So the paths of files
with different names in one directory never lead to one place.
-/

namespace UsbDescriptors

/-- The name of a file in a directory. Names that lead elsewhere are none. -/
structure IsFileName (name : String) : Prop where
  ne_empty : name ≠ ""
  ne_self : name ≠ "."
  ne_parent : name ≠ ".."
  no_slash : '/' ∉ name.toList

instance IsFileName.decidable (name : String) : Decidable (IsFileName name) :=
  decidable_of_iff (name ≠ "" ∧ name ≠ "." ∧ name ≠ ".." ∧ '/' ∉ name.toList)
    ⟨fun ⟨empty, self, parent, slash⟩ => ⟨empty, self, parent, slash⟩,
      fun ⟨empty, self, parent, slash⟩ => ⟨empty, self, parent, slash⟩⟩

namespace Location

theorem pieces_append (front back : String) :
    pieces (front ++ "/" ++ back) = pieces front ++ pieces back := by
  simp [pieces, List.splitOn_append_cons_self]

theorem pieces_of_isFileName {name : String} (isName : IsFileName name) : pieces name = [name] := by
  simp [pieces, List.splitOn_eq_singleton isName.no_slash]

theorem components_append {front name : String} (isName : IsFileName name) :
    components (front ++ "/" ++ name) = components front ++ [name] := by
  simp [components, pieces_append, pieces_of_isFileName isName, isName.ne_empty]

/-- Whether or not the path of a directory ends in a slash, that of a file in it has one more
component, the name of the file. -/
theorem exists_components_joinPath (directory : String) :
    ∃ front, ∀ name, IsFileName name → components (joinPath directory name) = front ++ [name] := by
  by_cases empty : directory.isEmpty
  · refine ⟨[], fun name isName => ?_⟩
    simp [joinPath, empty, components, pieces_of_isFileName isName, isName.ne_empty]
  · by_cases slash : directory.toList.getLast? = some '/'
    · rcases List.getLast?_eq_some_iff.mp slash with ⟨front, spelled⟩
      have ends : directory = String.ofList front ++ "/" := by
        apply String.toList_inj.mp
        simpa using spelled
      refine ⟨components (String.ofList front), fun name isName => ?_⟩
      rw [joinPath, if_neg empty, if_pos slash, ends, components_append isName]
    · refine ⟨components directory, fun name isName => ?_⟩
      rw [joinPath, if_neg empty, if_neg slash, components_append isName]

theorem start_joinPath {directory name : String} (isName : IsFileName name) :
    start (joinPath directory name) = start directory := by
  by_cases empty : directory.isEmpty
  · have inside : name.toList.head? ≠ some '/' := fun slash =>
      isName.no_slash (List.mem_of_head? slash)
    have nothing : directory = "" := by simpa using empty
    simp [joinPath, nothing, start, inside]
  · have first : directory.toList ≠ [] := by simpa using empty
    rcases List.exists_cons_of_ne_nil first with ⟨c, rest, spelled⟩
    unfold joinPath
    split
    · contradiction
    · split <;> simp [start, spelled]

theorem step_of_isFileName {place location : Location} {name : String} (isName : IsFileName name)
    (led : place.step name = .ok location) : location = place.child name := by
  unfold step at led
  rw [if_neg isName.ne_self, if_neg isName.ne_parent] at led
  split at led
  · cases led
  · exact (Except.ok.inj led).symm

theorem child_inj {place : Location} {name other : String}
    (same : place.child name = place.child other) : name = other := by
  simpa [child] using same

end Location

namespace FileTree

open Location

variable {tree : FileTree}

theorem follow_cons_iff {location place : Location} {component : String} {rest : List String} :
    tree.follow location (component :: rest) = .ok place ↔
      tree.get? location = some .directory ∧
        ∃ next, location.step component = .ok next ∧ tree.follow next rest = .ok place := by
  rw [follow]
  split
  next absent => simp [absent]
  next content present => simp [present]
  next present => simp [present, outcome_bind_iff]

theorem follow_append_iff {location place : Location} {front back : List String} :
    tree.follow location (front ++ back) = .ok place ↔
      ∃ middle, tree.follow location front = .ok middle ∧ tree.follow middle back = .ok place := by
  induction front generalizing location with
  | nil => simp [follow]
  | cons component rest ih =>
      simp only [List.cons_append, follow_cons_iff, ih]
      constructor
      · rintro ⟨directory, next, step, middle, first, second⟩
        exact ⟨middle, ⟨directory, next, step, first⟩, second⟩
      · rintro ⟨middle, ⟨directory, next, step, first⟩, second⟩
        exact ⟨directory, next, step, middle, first, second⟩

/-- What is reached through directories is reached in every tree that has these directories. -/
theorem follow_of_directories {other : FileTree}
    (kept : ∀ location, tree.get? location = some .directory →
      other.get? location = some .directory)
    {location place : Location} {names : List String}
    (led : tree.follow location names = .ok place) : other.follow location names = .ok place := by
  induction names generalizing location with
  | nil => exact led
  | cons component rest ih =>
      rcases follow_cons_iff.mp led with ⟨directory, next, step, later⟩
      exact follow_cons_iff.mpr ⟨kept location directory, next, step, ih later⟩

theorem locate_ok_iff {path : String} {location : Location} :
    tree.locate path = .ok location ↔ path ≠ "" ∧ path.utf8ByteSize ≤ pathLimit ∧
      tree.follow (start path) (components path) = .ok location := by
  unfold locate
  split
  next empty => simp_all
  next present =>
    split
    next long => simp [Nat.not_le.mpr long]
    next fits => simp_all

theorem locate_of_directories {other : FileTree}
    (kept : ∀ location, tree.get? location = some .directory →
      other.get? location = some .directory)
    {path : String} {location : Location} (led : tree.locate path = .ok location) :
    other.locate path = .ok location := by
  rcases locate_ok_iff.mp led with ⟨present, fits, reached⟩
  exact locate_ok_iff.mpr ⟨present, fits, follow_of_directories kept reached⟩

/-- Files with different names in one directory are at different places. -/
theorem locate_joinPath_inj {directory name other : String} {location : Location}
    (isName : IsFileName name) (isOther : IsFileName other)
    (led : tree.locate (joinPath directory name) = .ok location)
    (otherLed : tree.locate (joinPath directory other) = .ok location) : name = other := by
  rcases exists_components_joinPath directory with ⟨front, split⟩
  rcases locate_ok_iff.mp led with ⟨-, -, reached⟩
  rcases locate_ok_iff.mp otherLed with ⟨-, -, otherReached⟩
  rw [start_joinPath isName, split name isName, follow_append_iff] at reached
  rw [start_joinPath isOther, split other isOther, follow_append_iff] at otherReached
  rcases reached with ⟨place, led, last⟩
  rcases otherReached with ⟨otherPlace, otherLed, otherLast⟩
  have same : place = otherPlace := Except.ok.inj (led.symm.trans otherLed)
  subst same
  rcases follow_cons_iff.mp last with ⟨-, next, step, ended⟩
  rcases follow_cons_iff.mp otherLast with ⟨-, otherNext, otherStep, otherEnded⟩
  have child := step_of_isFileName isName step
  have otherChild := step_of_isFileName isOther otherStep
  have reached : next = otherNext :=
    (Except.ok.inj ended).trans (Except.ok.inj otherEnded).symm
  rw [child, otherChild] at reached
  exact child_inj reached

end FileTree

end UsbDescriptors
