/-!
# Disks

What the program asks of a file system, and a file system that is no more than a list of files and directories.
Operations that fail give the system's reason.
-/

namespace PodAttach.Program

structure Disk (m : Type → Type) where
  contains : String → m Bool
  read : String → m (Except String (List UInt8))
  /-- Makes a directory and all those above it. -/
  makeDirectory : String → m (Except String Unit)
  /-- Begins a log file in a directory. -/
  startLog : String → m (Except String Unit)

def notFound : String := "No such file or directory (os error 2)"

def fileExists : String := "File exists (os error 17)"

def notDirectory : String := "Not a directory (os error 20)"

def isDirectory : String := "Is a directory (os error 21)"

/-- The names on the way to a file, and whether the way starts at the root. -/
structure Place where
  isAbsolute : Bool
  names : List String
deriving DecidableEq, Repr

/-- The place of a path. A dot is no name, and two dots take one away. -/
def Place.ofPath (path : String) : Place :=
  let step := fun (names : List String) (name : String) =>
    if name = "" || name = "." then names else if name = ".." then names.dropLast else names ++ [name]
  ⟨path.toList.head? = some '/', ((path.toList.splitOn '/').map String.ofList).foldl step []⟩

/-- One place is another or lies below it. -/
def Place.isWithin (place outer : Place) : Bool :=
  place.isAbsolute = outer.isAbsolute && outer.names.isPrefixOf place.names

structure FileTree where
  files : List (Place × List UInt8)
  directories : List Place
deriving DecidableEq, Repr

namespace FileTree

def file? (tree : FileTree) (place : Place) : Option (List UInt8) := tree.files.lookup place

/-- A place that something lies below, or the start of all ways. -/
def isDirectory (tree : FileTree) (place : Place) : Bool :=
  place.names.isEmpty || tree.directories.any (·.isWithin place) ||
    tree.files.any fun (file, _) => file ≠ place && file.isWithin place

/-- A file stands in the way to a place. -/
def isBlocked (tree : FileTree) (place : Place) : Bool :=
  tree.files.any fun (file, _) => file ≠ place && place.isWithin file

def contains (tree : FileTree) (path : String) : Bool :=
  let place := Place.ofPath path
  (tree.file? place).isSome || tree.isDirectory place

def read (tree : FileTree) (path : String) : Except String (List UInt8) :=
  let place := Place.ofPath path
  match tree.file? place with
  | some bytes => .ok bytes
  | none =>
    if path ≠ "" ∧ tree.isDirectory place then .error Program.isDirectory
    else if tree.isBlocked place then .error notDirectory
    else .error notFound

def makeDirectory (tree : FileTree) (path : String) : Except String FileTree :=
  let place := Place.ofPath path
  if (tree.file? place).isSome then .error fileExists
  else if tree.isBlocked place then .error notDirectory
  else .ok { tree with directories := place :: tree.directories }

/-- The name of the log file of a run. The time of the run is no concern of a list of files. -/
def logName : String := "podbridge-00000000-000000.log"

def startLog (tree : FileTree) (path : String) : FileTree :=
  let directory := Place.ofPath path
  { tree with files := ({ directory with names := directory.names ++ [logName] }, []) :: tree.files }

/-- The log files in a directory. -/
def logs (tree : FileTree) (path : String) : List Place :=
  let directory := Place.ofPath path
  (tree.files.map Prod.fst).filter fun file =>
    file.isAbsolute = directory.isAbsolute && file.names.dropLast = directory.names &&
      file.names.getLast?.any fun name => "podbridge-".toList.isPrefixOf name.toList && ".log".toList.isSuffixOf name.toList

/-- The file system of a tree, kept as the state of a run. -/
def disk : Disk (StateM FileTree) where
  contains path := do return (← get).contains path
  read path := do return (← get).read path
  makeDirectory path := do
    match (← get).makeDirectory path with
    | .ok tree => set tree; return .ok ()
    | .error reason => return .error reason
  startLog path := do
    modify (·.startLog path)
    return .ok ()

end FileTree

end PodAttach.Program
