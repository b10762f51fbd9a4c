import Std.Data.ExtTreeMap
import WidgetBindings.Disk.Failure
import WidgetBindings.Text.Split

/-!
# Disks

A disk is a tree of directories and files without links, given by what is found at each location.
Paths are walked name by name: a single dot stays, two dots go up, and every name but the last has
to be that of a directory. Each operation either changes what its path names or fails and changes
nothing.
-/

namespace WidgetBindings

/-- A place in the tree: the names on the way from the root. -/
abbrev Location := List String

/-- What is found at a location. -/
inductive Node
  | file (bytes : List UInt8)
  | directory
  deriving DecidableEq, Repr

/-- A tree of files, and the directory in which relative paths start. -/
structure Disk where
  nodes : Std.ExtTreeMap Location Node
  current : Location

namespace Disk

/-- What is found at a location. The root is always a directory. -/
def at? (disk : Disk) (location : Location) : Option Node :=
  if location = [] then some .directory else disk.nodes[location]?

def put (disk : Disk) (location : Location) (node : Node) : Disk :=
  { disk with nodes := disk.nodes.insert location node }

def clear (disk : Disk) (location : Location) : Disk :=
  { disk with nodes := disk.nodes.erase location }

/-! ## Walking a path -/

/-- The names in a path, in order. -/
def namesOf (path : String) : List String :=
  ((Text.splitOn '/' path.toList).filter (!·.isEmpty)).map String.ofList

/-- A name may have this many bytes. -/
def longestName : Nat := 255

/-- A path has fewer than this many bytes. -/
def pathLimit : Nat := 4096

/-- The location that names lead to from a location, every name being that of something. -/
def walk (disk : Disk) : Location → List String → Except Failure Location
  | location, [] => .ok location
  | location, name :: names =>
    match disk.at? location with
    | some .directory =>
      if name = "." then walk disk location names
      else if name = ".." then walk disk location.dropLast names
      else if longestName < name.utf8ByteSize then .error .nameTooLong
      else if (disk.at? (location ++ [name])).isNone then .error .noSuchFile
      else walk disk (location ++ [name]) names
    | _ => .error .notADirectory

/-- Where a path starts to be walked. -/
def start (disk : Disk) (path : String) : Location :=
  if path.toList.head? = some '/' then [] else disk.current

/-- Whether a path ends in a slash. -/
def endsInSlash (path : String) : Bool := path.toList.getLast? = some '/'

/-- Turns down paths that cannot be walked at all. -/
def checkPath (path : String) : Except Failure Unit :=
  if '\x00' ∈ path.toList then .error .zeroInPath
  else if path = "" then .error .noSuchFile
  else if pathLimit ≤ path.utf8ByteSize then .error .nameTooLong
  else .ok ()

/-- What a path names, and where it is. -/
def find (disk : Disk) (path : String) : Except Failure (Location × Node) := do
  checkPath path
  let location ← disk.walk (disk.start path) (namesOf path)
  match disk.at? location with
  | none => .error .noSuchFile
  | some .directory => .ok (location, .directory)
  | some (.file bytes) =>
    if endsInSlash path then .error .notADirectory else .ok (location, .file bytes)

/-- Where a path leads before its last name, and that name. There is none if the path is the root or
ends in dots. -/
def split (disk : Disk) (path : String) : Except Failure (Location × Option String) := do
  checkPath path
  let names := namesOf path
  let parent ← disk.walk (disk.start path) names.dropLast
  if disk.at? parent ≠ some .directory then .error .notADirectory
  else
    match names.getLast? with
    | none => .ok (parent, none)
    | some name =>
      if name = "." ∨ name = ".." then .ok (parent, none)
      else if longestName < name.utf8ByteSize then .error .nameTooLong
      else .ok (parent, some name)

/-! ## Operations -/

def read (disk : Disk) (path : String) : Except Failure (List UInt8) := do
  match ← disk.find path with
  | (_, .file bytes) => .ok bytes
  | (_, .directory) => .error .isADirectory

def isDirectory (disk : Disk) (path : String) : Bool :=
  match disk.find path with
  | .ok (_, .directory) => true
  | _ => false

def makeDirectory (disk : Disk) (path : String) : Except Failure Disk := do
  let (parent, name) ← disk.split path
  match name with
  | none => .error .alreadyExists
  | some name =>
    if (disk.at? (parent ++ [name])).isSome then .error .alreadyExists
    else .ok (disk.put (parent ++ [name]) .directory)

/-- Where a file is to be opened for writing, and what is in it. -/
def openFile (disk : Disk) (path : String) : Except Failure (Location × List UInt8) := do
  let (parent, name) ← disk.split path
  match name with
  | none => .error .isADirectory
  | some name =>
    if endsInSlash path then .error .isADirectory
    else match disk.at? (parent ++ [name]) with
      | some .directory => .error .isADirectory
      | some (.file bytes) => .ok (parent ++ [name], bytes)
      | none => .ok (parent ++ [name], [])

/-- Makes an empty file, or empties the one that is there. -/
def create (disk : Disk) (path : String) : Except Failure Disk := do
  let (location, _) ← disk.openFile path
  .ok (disk.put location (.file []))

def write (disk : Disk) (path : String) (bytes : List UInt8) : Except Failure Disk := do
  let (location, held) ← disk.openFile path
  .ok (disk.put location (.file (held ++ bytes)))

/-- Where a file is moved from and to by renaming, and its bytes. A file takes the place of a file,
but not of a directory. -/
def moving (disk : Disk) (source target : String) :
    Except Failure (Location × Location × List UInt8) := do
  let (fromParent, fromName) ← disk.split source
  let (toParent, toName) ← disk.split target
  match fromName, toName with
  | some fromName, some toName =>
    match disk.at? (fromParent ++ [fromName]) with
    | none => .error .noSuchFile
    | some .directory => .error .busy
    | some (.file bytes) =>
      if endsInSlash source ∨ endsInSlash target then .error .notADirectory
      else if disk.at? (toParent ++ [toName]) = some .directory then .error .isADirectory
      else .ok (fromParent ++ [fromName], toParent ++ [toName], bytes)
  | _, _ => .error .busy

def rename (disk : Disk) (source target : String) : Except Failure Disk := do
  let (old, new, bytes) ← disk.moving source target
  .ok ((disk.clear old).put new (.file bytes))

/-- Where a file is that is to be removed. -/
def removal (disk : Disk) (path : String) : Except Failure Location := do
  let (parent, name) ← disk.split path
  match name with
  | none => .error .isADirectory
  | some name =>
    match disk.at? (parent ++ [name]) with
    | none => .error .noSuchFile
    | some .directory => .error .isADirectory
    | some (.file _) =>
      if endsInSlash path then .error .notADirectory else .ok (parent ++ [name])

def remove (disk : Disk) (path : String) : Except Failure Disk := do
  .ok (disk.clear (← disk.removal path))

end Disk

end WidgetBindings
