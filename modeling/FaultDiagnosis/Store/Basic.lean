import FaultDiagnosis.Contribution.Log
import FaultDiagnosis.Knowledge.References
import FaultDiagnosis.Store.FileTree

/-!
# Where knowledge is kept

A store holds the shipped knowledge and the records of accepted contributions. `Store.memory` keeps
both as values, and can be told to refuse new records. `Store.files` keeps the shipped knowledge as
a document and the records as a log, both in a file tree; the log may be missing, and it need not be
configured at all.
-/

namespace FaultDiagnosis

variable {W : Type}

/-- A store in memory. -/
structure MemoryStore (W : Type) where
  knowledge : KnowledgeBase W
  records : List (Record W) := []
  /-- Are new records refused? -/
  refusing : Bool := false

/-- A store in files. -/
structure FileStore where
  /-- The path of the knowledge document. -/
  documentPath : String
  /-- The path of the log. -/
  logPath : Option String
  tree : FileTree

/-- **A place where knowledge is kept.** -/
inductive Store (W : Type)
  | memory (store : MemoryStore W)
  | files (store : FileStore)

/-- Why a record was not stored. -/
inductive StorageFault
  | refused
  | noLog
  | cannotCreateDirectory (path : String)
  | cannotOpenLog (path : String)
  deriving DecidableEq, Repr

/-- The fault in words. -/
def StorageFault.message : StorageFault → String
  | refused => "append disabled"
  | noLog => "No contribution log configured"
  | cannotCreateDirectory path => "Failed to create directory: " ++ Text.quoted .escaped path
  | cannotOpenLog path => "Failed to open contribution log: " ++ Text.quoted .escaped path

namespace FileStore

/-- The shipped knowledge. -/
def knowledge [Weight W] [WeightNotation W] (s : FileStore) :
    Except (LoadFault W) (KnowledgeBase W) :=
  match s.tree.readText s.documentPath with
  | .error .absent => .error (.missing s.documentPath)
  | .error .unreadable => .error (.unreadable s.documentPath)
  | .ok text => parseDocument text s.documentPath

/-- The records. A log that is not there holds none. -/
def records [WeightNotation W] (s : FileStore) : Except (LoadFault W) (List (Record W)) :=
  match s.logPath with
  | none => .ok []
  | some path =>
    match s.tree.readText path with
    | .error .absent => .ok []
    | .error .unreadable => .error (.unreadable path)
    | .ok text => .ok (Log.records text)

/-- The tree after an attempt to create the directory that the log belongs in. -/
def prepare (tree : FileTree) (path : String) : Except StorageFault Unit × FileTree :=
  match FileTree.parent? path with
  | none => (.ok (), tree)
  | some directory =>
    if directory = "" then (.ok (), tree)
    else
      match tree.createDirectory directory with
      | (tree, true) => (.ok (), tree)
      | (tree, false) => (.error (.cannotCreateDirectory directory), tree)

/-- **The store after an attempt to store one more record** at the end of the log. Directories that
were created for the log stay, whether the record was stored or not. -/
def attempt [WeightNotation W] (s : FileStore) (r : Record W) :
    Except StorageFault Unit × FileStore :=
  match s.logPath with
  | none => (.error .noLog, s)
  | some path =>
    match prepare s.tree path with
    | (.error fault, tree) => (.error fault, { s with tree })
    | (.ok (), tree) =>
      match tree.append path (Log.entry r).toUTF8 with
      | some tree => (.ok (), { s with tree })
      | none => (.error (.cannotOpenLog path), { s with tree })

/-- The store with one more record at the end of the log, if it can be stored. -/
def append [WeightNotation W] (s : FileStore) (r : Record W) : Except StorageFault FileStore :=
  match s.attempt r with
  | (.ok (), s) => .ok s
  | (.error fault, _) => .error fault

end FileStore

namespace Store

/-- The shipped knowledge, as it is kept. -/
def knowledge [Weight W] [WeightNotation W] : Store W → Except (LoadFault W) (KnowledgeBase W)
  | memory s => .ok s.knowledge
  | files s => s.knowledge

/-- The records of accepted contributions, oldest first. -/
def records [WeightNotation W] : Store W → Except (LoadFault W) (List (Record W))
  | memory s => .ok s.records
  | files s => s.records

/-- **The store after an attempt to store one more record**, and why it was not stored if it was
not. -/
def attempt [WeightNotation W] : Store W → Record W → Except StorageFault Unit × Store W
  | memory s, r =>
    if s.refusing then (.error .refused, memory s)
    else (.ok (), memory { s with records := s.records ++ [r] })
  | files s, r =>
    let (answer, s) := s.attempt r
    (answer, files s)

end Store

end FaultDiagnosis
