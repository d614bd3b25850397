import UsbDescriptors.Text.Writing

/-!
# File systems

The few file operations that the command line needs, for any monad that can perform them. Paths are
texts with their components separated by slashes. They lead to places in a file system of which only
a part is known: the working directory stands somewhere in it, and the directories above that one and
the root can be reached, but by names only what has been put there is found.
-/

namespace UsbDescriptors

/-- Why a file operation fails. -/
inductive FileError where
  | notFound
  | alreadyExists
  | notDirectory
  | isDirectory
  | nameTooLong
  | notUtf8
  /-- Any other reason, in the words of the system. -/
  | other (reason : String)
deriving DecidableEq, Repr

def FileError.message : FileError → String
  | .notFound => "No such file or directory (os error 2)"
  | .alreadyExists => "File exists (os error 17)"
  | .notDirectory => "Not a directory (os error 20)"
  | .isDirectory => "Is a directory (os error 21)"
  | .nameTooLong => "File name too long (os error 36)"
  | .notUtf8 => "stream did not contain valid UTF-8"
  | .other reason => reason

/-- A monad that can work on files. -/
class FileSystem (m : Type → Type) where
  /-- Whether a path leads to a file. -/
  isFile : String → m Bool
  /-- The text of a file. -/
  readText : String → m (Except FileError String)
  /-- Makes sure that a directory and those on the way to it exist. -/
  createDirectories : String → m (Except FileError Unit)
  /-- Writes the text of a file. -/
  writeText : String → String → m (Except FileError Unit)

/-- The path of a file in a directory. -/
def joinPath (directory name : String) : String :=
  if directory.isEmpty then name
  else if directory.toList.getLast? = some '/' then directory ++ name
  else directory ++ "/" ++ name

/-- A directory that is known without its name. -/
inductive Origin where
  /-- The directory a number of levels above the working directory. -/
  | above (levels : Nat)
  /-- The root of the file system. -/
  | root
deriving DecidableEq, Repr

/-- A place in the file system, by the names on the way to it from a known directory. -/
structure Location where
  origin : Origin
  names : List String
deriving DecidableEq, Repr

namespace Location

/-- The place to which names lead from the working directory. -/
def inside (names : List String) : Location := ⟨.above 0, names⟩

def workingDirectory : Location := inside []

def root : Location := ⟨.root, []⟩

def child (location : Location) (name : String) : Location :=
  ⟨location.origin, location.names ++ [name]⟩

/-- The directory that a place is in. The root is in itself. -/
def parent (location : Location) : Location :=
  if location.names.isEmpty then
    match location.origin with
    | .above levels => ⟨.above (levels + 1), []⟩
    | .root => root
  else ⟨location.origin, location.names.dropLast⟩

/-- The number of bytes that a name may have. -/
def nameLimit : Nat := 255

/-- The place that one component of a path leads to. -/
def step (location : Location) (component : String) : Except FileError Location :=
  if component = "." then .ok location
  else if component = ".." then .ok location.parent
  else if nameLimit < component.utf8ByteSize then .error .nameTooLong
  else .ok (location.child component)

/-- The number of bytes that a path may have. -/
def pathLimit : Nat := 4095

/-- The place where a path starts: the root if the path begins with a slash. -/
def start (path : String) : Location :=
  if path.toList.head? = some '/' then root else workingDirectory

/-- What stands between the slashes of a path. -/
def pieces (path : String) : List String :=
  (path.toList.splitOn '/').map String.ofList

/-- The components of a path. Empty ones count as the directory itself. -/
def components (path : String) : List String :=
  (pieces path).map fun component => if component.isEmpty then "." else component

/-- The names in a path, points included. -/
def namesIn (path : String) : List String :=
  (pieces path).filter fun name => !name.isEmpty

/-- The names on the way to the last one. A point, by which a directory names itself, leads nowhere
and does not count as the last one. -/
def onTheWay (names : List String) : List String :=
  (names.filter (· ≠ ".")).dropLast

end Location

end UsbDescriptors
