import SeriesQuery.Files.Host
import SeriesQuery.Files.Path
import SeriesQuery.OrderedMap

/-! # A tree of files in memory

Files and directories under one directory. A path is walked piece by piece: on the way only directories
may stand, and where a directory is meant, as behind a trailing slash, a file is refused. Above the tree
there are directories only.
-/

namespace SeriesQuery

/-- What stands at a place of the tree. -/
inductive FileNode where
  | directory
  | file (bytes : List UInt8)
deriving DecidableEq, Repr

/-- Files and directories by their paths from the root, written without dots and double slashes. The root
itself has no entry. -/
structure FileTree where
  nodes : OrderedMap String FileNode

namespace FileTree

def empty : FileTree := ⟨.empty⟩

def node? (t : FileTree) (place : List String) : Option FileNode :=
  if place.isEmpty then some .directory else t.nodes.find? (String.intercalate "/" place)

def set (t : FileTree) (place : List String) (n : FileNode) : FileTree :=
  ⟨t.nodes.insert (String.intercalate "/" place) n⟩

/-- Where a path leads. -/
inductive Lookup where
  | found (place : List String) (node : FileNode)
  /-- To a place where nothing stands, in a directory that exists. -/
  | vacant (place : List String) (asDirectory : Bool)
  | refused (fault : DeviceFault)

/-- The longest name, in bytes. -/
def nameLimit : Nat := 255

/-- The longest path, in bytes. -/
def pathLimit : Nat := 4095

def walk (t : FileTree) (place : List String) : List String → Lookup
  | [] => .found place .directory
  | piece :: rest =>
    if piece = "" ∨ piece = "." then t.walk place rest
    else if piece = ".." then t.walk place.dropLast rest
    else if nameLimit < piece.utf8ByteSize then .refused .nameTooLong
    else
      let place := place ++ [piece]
      match t.node? place with
      | some .directory => t.walk place rest
      | some (.file bytes) => if rest.isEmpty then .found place (.file bytes) else .refused .notDirectory
      | none =>
        if rest.all String.isEmpty then .vacant place (!rest.isEmpty) else .refused .missing

/-- Where a path leads. An absolute one leads to the topmost directory or nowhere. -/
def lookup (t : FileTree) (path : String) : Lookup :=
  if path.toList.contains '\x00' then .refused .nulInPath
  else if path.isEmpty then .refused .missing
  else if pathLimit < path.utf8ByteSize then .refused .nameTooLong
  else if Path.isAbsolute path then
    if (Path.parts path).all fun s => s == ".." then .found [] .directory else .refused .missing
  else t.walk [] (Path.pieces path)

def file (t : FileTree) (path : String) : FileState :=
  .ofContents <|
    match t.lookup path with
    | .found _ .directory => .error .isDirectory
    | .found _ (.file bytes) => .ok bytes
    | .vacant _ _ => .error .missing
    | .refused fault => .error fault

/-- Opens a file for writing, with its new contents computed from the old. -/
def update (t : FileTree) (path : String) (contents : List UInt8 → List UInt8) :
    Except DeviceFault Unit × FileTree :=
  match t.lookup path with
  | .found _ .directory => (.error .isDirectory, t)
  | .found place (.file bytes) => (.ok (), t.set place (.file (contents bytes)))
  | .vacant place asDirectory =>
    if asDirectory then (.error .isDirectory, t) else (.ok (), t.set place (.file (contents [])))
  | .refused fault => (.error fault, t)

/-- Makes one directory in a directory that exists. -/
def makeDirectory (t : FileTree) (path : String) : Except DeviceFault FileTree :=
  match t.lookup path with
  | .found _ _ => .error .occupied
  | .vacant place _ => .ok (t.set place .directory)
  | .refused fault => .error fault

def isDirectory (t : FileTree) (path : String) : Bool :=
  match t.lookup path with
  | .found _ .directory => true
  | _ => false

/-- Makes the first of the paths, and before it those of the others that it needs. -/
def makeLineage (t : FileTree) : List String → Except DeviceFault Unit × FileTree
  | [] => (.ok (), t)
  | path :: above =>
    match t.makeDirectory path with
    | .ok made => (.ok (), made)
    | .error .missing =>
      match t.makeLineage above with
      | (.error fault, made) => (.error fault, made)
      | (.ok (), made) =>
        match made.makeDirectory path with
        | .ok last => (.ok (), last)
        | .error fault => (if made.isDirectory path then .ok () else .error fault, made)
    | .error fault => (if t.isDirectory path then .ok () else .error fault, t)

def makeDirectories (t : FileTree) (path : String) : Except DeviceFault Unit × FileTree :=
  if path.isEmpty then (.ok (), t) else t.makeLineage (Path.lineage path)

/-- A tree as surroundings, with a clock that stands still. -/
def host (now : Int64) : Host (StateM FileTree) where
  file path := fun t => (t.file path, t)
  makeDirectories path := fun t => t.makeDirectories path
  write path bytes := fun t => t.update path fun _ => bytes
  openLog path := fun t => t.update path id
  now := pure now

end FileTree
end SeriesQuery
