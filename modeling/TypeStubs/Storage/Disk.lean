import TypeStubs.Storage.Path
import TypeStubs.Storage.SystemError
import TypeStubs.Storage.Tree
import TypeStubs.Text.Utf8

/-! A disk: a tree of directories and files, and paths that lead to them from a current
directory. A path is followed part by part, and each part but the last has to lead to a
directory. -/
namespace TypeStubs

/-- A disk with a current directory. -/
structure Disk where
  top : Tree := .directory []
  here : Place := []

/-- The directories that have been entered, the last one first. Without any, the top is
where one is. -/
abbrev Trail := List (String × Tree)

/-- The place that a trail leads to. -/
def Trail.place (trail : Trail) : Place := (trail.map (·.1)).reverse

namespace Disk

/-- An empty disk with the given current directory, which is below the top. -/
def atDirectory (name : String) : Disk := ⟨.directory [(name, .directory [])], [name]⟩

/-- The directory at the end of a trail. -/
def reached (disk : Disk) : Trail → Tree
  | [] => disk.top
  | (_, tree) :: _ => tree

/-- The trail to the current directory. -/
def start (disk : Disk) : Trail :=
  disk.here.foldl
    (fun trail name => ((disk.reached trail).child? name).elim trail fun tree => (name, tree) :: trail)
    []

/-- The longest name, in bytes. -/
def nameLimit : Nat := 255

/-- The longest path, in bytes. -/
def pathLimit : Nat := 4095

/-- What has a name at the end of a trail. -/
def look (disk : Disk) (trail : Trail) (name : String) : Except SystemError (Option Tree) :=
  if nameLimit < name.utf8ByteSize then .error .nameTooLong
  else .ok ((disk.reached trail).child? name)

/-- Follows one part of a path to a directory. -/
def step (disk : Disk) (trail : Trail) (part : String) : Except SystemError Trail := do
  if part == "." then return trail
  if part == ".." then return trail.drop 1
  match ← disk.look trail part with
  | some (.directory entries) => return (part, .directory entries) :: trail
  | some (.file _) => throw .notDirectory
  | none => throw .notFound

/-- Where a path leads. -/
inductive Target where
  /-- To a directory that is there, by a path that ends in no name. -/
  | directory (trail : Trail)
  /-- To a name at the end of a trail, which nothing need have. A slash behind the name
  asks for a directory. -/
  | named (trail : Trail) (name : String) (slash : Bool)

/-- Follows a path up to its last part. -/
def target (disk : Disk) (path : String) : Except SystemError Target := do
  let chars := path.toList
  if chars.contains '\x00' then throw .nulInPath
  if pathLimit < path.utf8ByteSize then throw .nameTooLong
  if chars.isEmpty then throw .notFound
  let parts := (Text.splitOn '/' path).filter fun part => !part.isEmpty
  let start := if chars.head? == some '/' then [] else disk.start
  match parts.getLast? with
  | none => return .directory start
  | some last =>
    let trail ← parts.dropLast.foldlM disk.step start
    if last == "." || last == ".." then return .directory (← disk.step trail last)
    return .named trail last (chars.getLast? == some '/')

/-- What is at a path. -/
def find (disk : Disk) (path : String) : Except SystemError Tree := do
  match ← disk.target path with
  | .directory trail => return disk.reached trail
  | .named trail name slash =>
    match ← disk.look trail name with
    | some (.directory entries) => return .directory entries
    | some (.file bytes) => if slash then throw .notDirectory else return .file bytes
    | none => throw .notFound

/-- The bytes of the file at a path. -/
def read (disk : Disk) (path : String) : Except SystemError ByteArray := do
  match ← disk.find path with
  | .file bytes => return bytes
  | .directory _ => throw .isDirectory

/-- Whether there is something at a path. -/
def has (disk : Disk) (path : String) : Bool := (disk.find path).isOk

/-- Whether there is a directory at a path. -/
def hasDirectory (disk : Disk) (path : String) : Bool :=
  match disk.find path with
  | .ok (.directory _) => true
  | _ => false

/-- Puts something under a name at the end of a trail. -/
def put (disk : Disk) (trail : Trail) (name : String) (tree : Tree) : Disk :=
  { disk with top := disk.top.put tree (trail.place ++ [name]) }

/-- Writes a file at a path whose directory is there. A slash at the end is refused
before the name is looked at. -/
def write (disk : Disk) (path : String) (bytes : ByteArray) : Except SystemError Disk := do
  match ← disk.target path with
  | .directory _ => throw .isDirectory
  | .named trail name slash =>
    if slash then throw .isDirectory
    match ← disk.look trail name with
    | some (.directory _) => throw .isDirectory
    | _ => return disk.put trail name (.file bytes)

/-- Makes one directory. -/
def makeDirectory (disk : Disk) (path : String) : Except SystemError Disk := do
  match ← disk.target path with
  | .directory _ => throw .alreadyThere
  | .named trail name _ =>
    match ← disk.look trail name with
    | some _ => throw .alreadyThere
    | none => return disk.put trail name (.directory [])

/-- Makes a directory unless it is there already. -/
def provideDirectory (disk : Disk) (path : String) : Except SystemError Disk :=
  match disk.makeDirectory path with
  | .error .alreadyThere => if disk.hasDirectory path then .ok disk else .error .alreadyThere
  | result => result

/-- Makes a directory and those above it that are missing, given the paths of all of
them, the nearest first. Directories that were made stay when a later one cannot be
made. -/
def makeDirectories (disk : Disk) : List String → Except SystemError Unit × Disk
  | [] => (.ok (), disk)
  | path :: above =>
    match disk.provideDirectory path with
    | .ok disk => (.ok (), disk)
    | .error .notFound =>
      match disk.makeDirectories above with
      | (.ok _, disk) =>
        match disk.provideDirectory path with
        | .ok disk => (.ok (), disk)
        | .error error => (.error error, disk)
      | failed => failed
    | .error error => (.error error, disk)

/-- Writes a file, and makes the directories on the way to it that are missing. -/
def save (disk : Disk) (path : String) (bytes : ByteArray) : Except SystemError Unit × Disk :=
  match disk.makeDirectories (Path.directoriesAbove path) with
  | (.ok _, disk) =>
    match disk.write path bytes with
    | .ok disk => (.ok (), disk)
    | .error error => (.error error, disk)
  | failed => failed

/-- Writes a text as a file. -/
def saveText (disk : Disk) (path text : String) : Except SystemError Unit × Disk :=
  disk.save path text.toUTF8

/-- The files below the current directory: their places from there, and their bytes. -/
def filesHere (disk : Disk) : List (Place × ByteArray) :=
  ((disk.top.at? disk.here).map (·.files)).getD []

end Disk

end TypeStubs
