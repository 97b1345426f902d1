import ProposalBoard.Disk.Device

/-!
# Disk

The files and directories that a program finds, and the directory it runs in. A directory is there
if it stands at the root of every disk, if it was made, if there is a file below it, or if the
program runs below it. A path leads from the root or from the running directory to a place, which
is given by the names that lead there from the root; one that is too long leads nowhere.
-/

namespace ProposalBoard

/-- A directory tree and the directory that a program runs in. -/
structure Disk where
  /-- The place of the running directory. -/
  running : List String
  /-- The files with their places and contents. -/
  files : List (List String × ByteArray)
  /-- The places of the directories that were made, whether or not a file is below them. -/
  directories : List (List String)

namespace Disk

/-! ## Paths -/

/-- The names in a path. Two slashes in a row have an empty name between them, and so has a slash
in front before it. -/
def splitPath (path : String) : List String :=
  let step : Char → List (List Char) → List (List Char)
    | '/', names => [] :: names
    | c, name :: names => (c :: name) :: names
    | c, [] => [[c]]
  (path.toList.foldr step [[]]).map String.ofList

/-- The path along some names. -/
def joinPath (names : List String) : String :=
  "/".intercalate names

/-- Whether a path starts at the root. -/
def isAbsolute (path : String) : Bool :=
  path.toList.head? = some '/'

/-- The greatest number of bytes in a name. -/
def longestName : Nat := 255

/-- The greatest number of bytes in a path. -/
def longestPath : Nat := 4095

/-! ## Places -/

/-- The directories at the root of every disk. -/
def rootDirectories : List String :=
  ["boot", "dev", "etc", "home", "media", "mnt", "opt", "proc", "root", "run", "srv", "sys", "tmp",
    "usr", "var"]

/-- Whether a place belongs to a directory that is shown by the system and not kept. Nothing can be
made there. -/
def isShown (place : List String) : Bool :=
  place.head? = some "proc" || place.head? = some "sys"

/-- Whether a place is a directory. -/
def isDirectory (d : Disk) (place : List String) : Bool :=
  place.isPrefixOf d.running || place.isPrefixOf Device.openFiles ||
    rootDirectories.any ([·] = place) || d.directories.contains place ||
    d.files.any fun f => place.isPrefixOf f.1 && place.length < f.1.length

/-- Whether a place is a file or a device. -/
def isFile (d : Disk) (place : List String) : Bool :=
  (Device.at? place).isSome || (d.files.lookup place).isSome

/-- Follows a name from a directory, whether or not the name is there. The root has no directory
above it. -/
def enter? (d : Disk) (directory : List String) (name : String) : Option (List String) :=
  if !d.isDirectory directory || longestName < name.utf8ByteSize then none
  else if name = "" ∨ name = "." then some directory
  else if name = ".." then some directory.dropLast
  else some (Device.followLink (directory ++ [name]))

/-- Where a path starts. -/
def start (d : Disk) (path : String) : List String :=
  if isAbsolute path then [] else d.running

/-- The place that a path leads to, whether or not there is a file. All names but the last have to
lead to directories. -/
def locate? (d : Disk) (path : String) : Option (List String) :=
  if longestPath < path.utf8ByteSize then none
  else (splitPath path).foldlM d.enter? (d.start path)

/-! ## Reading and writing -/

/-- The content of the file at a path. -/
def read? (d : Disk) (path : String) : Option ByteArray := do
  let place ← d.locate? path
  match Device.at? place with
  | some device => device.content?
  | none => d.files.lookup place

/-- The disk with a file of the given content at a place. -/
def put (d : Disk) (place : List String) (content : ByteArray) : Disk :=
  { d with files := d.files.filter (·.1 ≠ place) ++ [(place, content)] }

/-- What is printed when a text is written to the file at a path, and the disk after it. The
directory has to be there. -/
def write? (d : Disk) (path text : String) : Option (String × Disk) := do
  let place ← d.locate? path
  match Device.at? place with
  | some device => return (← device.print? text, d)
  | none => if d.isDirectory place || isShown place then none else ("", d.put place text.toUTF8)

/-- The disk with a directory at a place, if there is no file. -/
def makeDirectory? (d : Disk) (place : List String) : Option Disk :=
  if d.isFile place then none
  else if d.isDirectory place then some d
  else if isShown place then none
  else some { d with directories := place :: d.directories }

/-- The disk with all directories that names lead to from a place, one after the other. Names that
lead back up leave behind what they led to before. -/
def makeDirectories? (d : Disk) (place : List String) : List String → Option Disk
  | [] => some d
  | name :: rest =>
    match d.enter? place name with
    | some next => (d.makeDirectory? next).bind (·.makeDirectories? next rest)
    | none => none

/-- The disk with the directory that a path leads to. -/
def makePath? (d : Disk) (path : String) : Option Disk :=
  d.makeDirectories? (d.start path) (splitPath path)

/-- The disk after a file is opened to add to it, which creates it if it is missing. -/
def openToAppend? (d : Disk) (path : String) : Option Disk := do
  let place ← d.locate? path
  if d.isFile place then d
  else if d.isDirectory place || isShown place then none
  else d.put place .empty

/-! ## The running directory -/

/-- The disk with files at paths from the running directory. -/
def ofFiles (running : List String) (files : List (String × ByteArray)) : Disk where
  running
  files := files.map fun f => (running ++ splitPath f.1, f.2)
  directories := []

/-- The paths of all files below the running directory in ascending order. -/
def paths (d : Disk) : List String :=
  let below := d.files.filter fun f => d.running.isPrefixOf f.1
  (below.map fun f => joinPath (f.1.drop d.running.length)).mergeSort

end Disk

end ProposalBoard
