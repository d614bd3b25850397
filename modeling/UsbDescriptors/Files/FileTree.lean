import UsbDescriptors.Files.FileSystem

/-!
# File trees

A file system in memory: the files and directories that have been put into it, and the directories
that the working directory stands in.
-/

namespace UsbDescriptors

/-- What stands at a place of a file tree. -/
inductive FileEntry where
  | file (content : ByteArray)
  | directory

/-- The files and directories at the places that hold something. -/
structure FileTree where
  entries : List (Location × FileEntry)

namespace FileTree

def empty : FileTree := ⟨[]⟩

/-- What stands at a location; the directories that are known without a name always exist. -/
def get? (tree : FileTree) (location : Location) : Option FileEntry :=
  if location.names.isEmpty then some .directory
  else (tree.entries.find? fun entry => entry.1 = location).map Prod.snd

/-- Puts something at a location. -/
def put (tree : FileTree) (location : Location) (entry : FileEntry) : FileTree :=
  ⟨tree.entries.filter (fun present => present.1 ≠ location) ++ [(location, entry)]⟩

/-- Puts a directory at every location on the way to one that has nothing yet. -/
def putParents (tree : FileTree) (location : Location) : FileTree :=
  (List.range location.names.length).foldl
    (fun grown length =>
      let parent : Location := ⟨location.origin, location.names.take length⟩
      if (grown.get? parent).isSome then grown else grown.put parent .directory)
    tree

/-- Puts a file at a location, together with the directories on the way. -/
def putFile (tree : FileTree) (location : Location) (content : ByteArray) : FileTree :=
  (tree.putParents location).put location (.file content)

/-- Follows components from a location. Everything but the last place has to be a directory. -/
def follow (tree : FileTree) : Location → List String → Except FileError Location
  | location, [] => .ok location
  | location, component :: rest =>
      match tree.get? location with
      | none => .error .notFound
      | some (.file _) => .error .notDirectory
      | some .directory => do
          let next ← location.step component
          tree.follow next rest

/-- The location that a path leads to, whether or not something stands there. -/
def locate (tree : FileTree) (path : String) : Except FileError Location :=
  if path.isEmpty then .error .notFound
  else if Location.pathLimit < path.utf8ByteSize then .error .nameTooLong
  else tree.follow (.start path) (Location.components path)

def isFile (tree : FileTree) (path : String) : Bool :=
  match tree.locate path with
  | .error _ => false
  | .ok location =>
      match tree.get? location with
      | some (.file _) => true
      | _ => false

def readText (tree : FileTree) (path : String) : Except FileError String := do
  let location ← tree.locate path
  match tree.get? location with
  | none => .error .notFound
  | some .directory => .error .isDirectory
  | some (.file content) =>
      match String.fromUTF8? content with
      | some text => .ok text
      | none => .error .notUtf8

/-- Makes sure that there is a directory at a location. -/
def ensure (tree : FileTree) (location : Location) : Except FileError FileTree :=
  match tree.get? location with
  | some .directory => .ok tree
  | some (.file _) => .error .alreadyExists
  | none => .ok (tree.put location .directory)

/-- Makes sure that there is a directory where names lead to, in a directory that exists. -/
def ensureDirectory (tree : FileTree) (start : Location) (names : List String) :
    Except FileError FileTree := do
  let location ← tree.follow start names
  tree.ensure location

/-- Makes sure that there is a directory at each place that names lead through. Those in front of
a place where there can be none are left behind. -/
def ensureEach (tree : FileTree) : Location → List String → Except FileError Unit × FileTree
  | _, [] => (.ok (), tree)
  | location, name :: rest =>
      match location.step name with
      | .error error => (.error error, tree)
      | .ok next =>
          match tree.ensure next with
          | .error error => (.error error, tree)
          | .ok grown => grown.ensureEach next rest

/-- Replaces the tree by the outcome of an operation unless the operation fails. -/
def update (operation : FileTree → Except FileError FileTree) :
    StateM FileTree (Except FileError Unit) := fun tree =>
  match operation tree with
  | .ok changed => (.ok (), changed)
  | .error error => (.error error, tree)

/-- Makes sure that a directory exists. If something on the way to it is missing, the directories
on the way are created first. The empty path needs no directory. -/
def createDirectories (path : String) : StateM FileTree (Except FileError Unit) := fun tree =>
  if path.isEmpty then (.ok (), tree)
  else if Location.pathLimit < path.utf8ByteSize then (.error .nameTooLong, tree)
  else
    let start := Location.start path
    let names := Location.namesIn path
    match tree.ensureDirectory start names with
    | .ok grown => (.ok (), grown)
    | .error .notFound =>
        match tree.ensureEach start (Location.onTheWay names) with
        | (.ok _, grown) => update (ensureDirectory · start names) grown
        | (.error error, grown) => (.error error, grown)
    | .error error => (.error error, tree)

/-- Writes the text of a file, in a directory that exists. -/
def writeText (tree : FileTree) (path text : String) : Except FileError FileTree := do
  let location ← tree.locate path
  match tree.get? location with
  | some .directory => .error .isDirectory
  | _ =>
      match tree.get? location.parent with
      | some .directory => .ok (tree.put location (.file text.toUTF8))
      | some (.file _) => .error .notDirectory
      | none => .error .notFound

instance : FileSystem (StateM FileTree) where
  isFile path := fun tree => (tree.isFile path, tree)
  readText path := fun tree => (tree.readText path, tree)
  createDirectories path := createDirectories path
  writeText path text := update fun tree => tree.writeText path text

def sameEntry : Option FileEntry → Option FileEntry → Bool
  | none, none => true
  | some .directory, some .directory => true
  | some (.file left), some (.file right) => left.data = right.data
  | _, _ => false

/-- The files below the working directory that are new or changed since an earlier state, by the
names on the way to them. -/
def changedFiles (tree earlier : FileTree) : List (List String × ByteArray) :=
  tree.entries.filterMap fun entry =>
    match entry.1.origin, entry.2 with
    | .above 0, .file content =>
        if sameEntry (earlier.get? entry.1) (some entry.2) then none
        else some (entry.1.names, content)
    | _, _ => none

end FileTree

end UsbDescriptors
