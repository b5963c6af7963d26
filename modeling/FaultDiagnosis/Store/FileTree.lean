/-!
# Trees of files

The program reads and writes a few files. A `FileTree` is what it sees of the file system: which
paths are directories, and which are files with which bytes. Paths are texts; a path that does not
start with a slash starts from the working directory, and `.` and `..` have their usual meaning.
-/

namespace FaultDiagnosis

/-- What is found at a place of a file tree. -/
inductive FileNode
  | directory
  | file (content : ByteArray)

/-- The directories and files, by the names that lead there. The names of a place outside the
working directory start with a slash. -/
structure FileTree where
  nodes : List (List String × FileNode) := []

/-- What a path leads to. -/
inductive Found
  /-- Nothing is there, though something could be. -/
  | absent
  /-- Nothing can be there, because a file stands where a directory would have to. -/
  | blocked
  | directory
  | file (content : ByteArray)

namespace FileTree

/-! ### Paths -/

/-- The parts of a path between slashes. -/
def parts (path : String) : List String :=
  (path.toList.splitOnP (· = '/')).map String.ofList

/-- Does the path start from the root? -/
def isAbsolute (path : String) : Bool :=
  path.toList.head? = some '/'

/-- The names on a path, without the parts that lead nowhere. -/
def names (path : String) : List String :=
  (parts path).filter fun p => p ≠ "" && p ≠ "."

/-- Does the last part of the path lead nowhere, so that it can only be the path of a directory? -/
def asksForDirectory (path : String) : Bool :=
  (parts path).getLast?.any fun p => p = "" || p = "."

/-- The path of a name inside a directory. -/
def join (directory name : String) : String :=
  if directory = "" ∨ directory.toList.getLast? = some '/' then directory ++ name
  else directory ++ "/" ++ name

/-- The parts of a path up to the last one that names something. A dot names something only where
the path starts with it. -/
def trimParts (parts : List String) : List String :=
  let indexed := parts.zipIdx
  let kept := (indexed.reverse.dropWhile fun (p, i) => p = "" || (p = "." && i ≠ 0)).reverse
  kept.map Prod.fst

/-- The path of the directory that a path is in: empty for a name alone, and none for the root. -/
def parent? (path : String) : Option String :=
  match trimParts (parts path) with
  | [] => none
  | ps =>
    let rest := "/".intercalate (trimParts ps.dropLast)
    some (if rest = "" ∧ isAbsolute path then "/" else rest)

/-- The place where a path starts. -/
def start (path : String) : List String :=
  if isAbsolute path then ["/"] else []

/-! ### Looking -/

/-- The node at a place. The working directory and the root are there in any case. -/
def node? (t : FileTree) (place : List String) : Option FileNode :=
  if place = [] ∨ place = ["/"] then some .directory
  else t.nodes.lookup place

/-- Goes along names from a place. -/
def walk (t : FileTree) : List String → List String → Found
  | place, [] =>
    match t.node? place with
    | none => .absent
    | some .directory => .directory
    | some (.file content) => .file content
  | place, name :: names =>
    match t.node? place with
    | none => .absent
    | some (.file _) => .blocked
    | some .directory => walk t (if name = ".." then place.dropLast else place ++ [name]) names

/-- **What a path leads to.** A path that asks for a directory finds no file. -/
def find (t : FileTree) (path : String) : Found :=
  if path = "" then .absent
  else if path.toList.contains '\x00' then .blocked
  else
    match t.walk (start path) (names path) with
    | .file content => if asksForDirectory path then .blocked else .file content
    | found => found

/-- Is there a file or a directory? -/
def holds (t : FileTree) (path : String) : Bool :=
  match t.find path with
  | .directory | .file _ => true
  | .absent | .blocked => false

/-- Why a file was not read. -/
inductive ReadFault
  | absent
  | unreadable
  deriving DecidableEq, Repr

/-- The text of a file. Bytes that are no text cannot be read. -/
def readText (t : FileTree) (path : String) : Except ReadFault String :=
  match t.find path with
  | .absent => .error .absent
  | .blocked | .directory => .error .unreadable
  | .file content =>
    match String.fromUTF8? content with
    | some text => .ok text
    | none => .error .unreadable

/-! ### Changing -/

/-- The tree with a node at a place. -/
def put (t : FileTree) (place : List String) (node : FileNode) : FileTree :=
  ⟨(place, node) :: t.nodes.filter fun e => e.1 ≠ place⟩

/-- Goes along names from a place and creates the directories that are missing, up to where a file
is in the way. Gives the tree with those that were created, and whether the names came to an end. -/
def makeDirectories (t : FileTree) (place : List String) : List String → FileTree × Bool
  | [] => (t, true)
  | name :: names =>
    let next := if name = ".." then place.dropLast else place ++ [name]
    match t.node? next with
    | some .directory => makeDirectories t next names
    | some (.file _) => (t, false)
    | none => makeDirectories (t.put next .directory) next names

/-- **The tree after an attempt to create a directory** and those that it is in, and whether it is
there now. What was created stays, also where a file is in the way of the rest. -/
def createDirectory (t : FileTree) (path : String) : FileTree × Bool :=
  if path.toList.contains '\x00' then (t, false)
  else t.makeDirectories (start path) (names path)

/-- The place that a file can be created at: its directory is there, and nothing else is. -/
def placeOf (path : String) : List String :=
  (names path).foldl (fun place name => if name = ".." then place.dropLast else place ++ [name])
    (start path)

/-- **The tree with bytes added at the end of a file**, which is created if it is absent. -/
def append (t : FileTree) (path : String) (bytes : ByteArray) : Option FileTree :=
  match t.find path with
  | .file content => some (t.put (placeOf path) (.file (content ++ bytes)))
  | .absent =>
    match t.walk (start path) (names path).dropLast with
    | .directory =>
      if path = "" ∨ asksForDirectory path then none
      else some (t.put (placeOf path) (.file bytes))
    | _ => none
  | .blocked | .directory => none

end FileTree

end FaultDiagnosis
