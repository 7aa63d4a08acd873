import FileDepot.Bytes
import FileDepot.Files.PathName
import FileDepot.Index

/-!
# The file system

Names in directories refer to nodes, and nodes outlive their names for as
long as somebody holds them.  An advisory lock belongs to a node: it is
exclusive, and it is released by whoever holds it.  Removing a file removes
its name only, and a socket takes a name that must be free.
-/

namespace FileDepot

abbrev NodeId := Nat

/-- What a name can refer to. -/
inductive Node
  | directory (parent : NodeId) (entries : Index String NodeId)
  | regular (content : Bytes)
  | socket
  deriving DecidableEq

/-- A tree of directories and the nodes in it. -/
structure FileSystem where
  nodes : Index NodeId Node
  root : NodeId
  /-- The directory at which relative paths start. -/
  here : NodeId
  /-- The number of the next node. -/
  next : NodeId
  /-- The nodes whose advisory lock is held. -/
  locked : List NodeId := []
  deriving DecidableEq

/-- What a path refers to, but for its last name. -/
inductive Place
  /-- A name in a directory. -/
  | entry (directory : NodeId) (name : String) (directoryOnly : Bool)
  /-- A directory that the path names by dots or slashes alone. -/
  | node (directory : NodeId)
  deriving DecidableEq, Repr

namespace FileSystem

/-- A file system with an empty root directory, where relative paths start. -/
def fresh : FileSystem where
  nodes := Index.empty.insert 0 (.directory 0 .empty)
  root := 0
  here := 0
  next := 1

def node? (system : FileSystem) (node : NodeId) : Option Node :=
  system.nodes.find? node

def directory? (system : FileSystem) (node : NodeId) :
    Except SystemFault (NodeId × Index String NodeId) :=
  match system.node? node with
  | some (.directory parent entries) => .ok (parent, entries)
  | _ => .error .notADirectory

def isDirectoryNode (system : FileSystem) (node : NodeId) : Bool :=
  match system.directory? node with
  | .ok _ => true
  | .error _ => false

/-- The node that a name in a directory refers to. -/
def entry? (system : FileSystem) (directory : NodeId) (name : String) :
    Except SystemFault (Option NodeId) := do
  let (_, entries) ← system.directory? directory
  if PathName.maxNameLength < name.utf8ByteSize then
    .error .nameTooLong
  else
    return entries.find? name

def advance (system : FileSystem) (node : NodeId) (step : PathStep) :
    Except SystemFault NodeId :=
  match step with
  | .here => do
      discard (system.directory? node)
      return node
  | .parent => do return (← system.directory? node).1
  | .name name => do
      match ← system.entry? node name with
      | some found => return found
      | none => .error .noEntry

def walk (system : FileSystem) (node : NodeId) (steps : List PathStep) :
    Except SystemFault NodeId :=
  steps.foldlM system.advance node

/-- Follows a path up to its last name. -/
def locate (system : FileSystem) (path : String) : Except IoFault Place := do
  PathName.check path
  let name := PathName.ofText path
  let start := if name.absolute then system.root else system.here
  let walked (steps : List PathStep) : Except IoFault NodeId :=
    (system.walk start steps).mapError .system
  match name.steps.getLast? with
  | some (.name last) =>
      let directory ← walked name.steps.dropLast
      return .entry directory last name.directoryOnly
  | _ => return .node (← walked name.steps)

/-- The node at a place, if there is one. -/
def nodeAt? (system : FileSystem) (place : Place) :
    Except IoFault (Option NodeId) :=
  match place with
  | .node node => .ok (some node)
  | .entry directory name directoryOnly =>
      match system.entry? directory name with
      | .error fault => .error (.system fault)
      | .ok (some node) =>
          if directoryOnly && !system.isDirectoryNode node then
            .error (.system .notADirectory)
          else
            .ok (some node)
      | .ok none => .ok none

def resolve (system : FileSystem) (path : String) : Except IoFault NodeId := do
  match ← system.nodeAt? (← system.locate path) with
  | some node => return node
  | none => .error (.system .noEntry)

def exists? (system : FileSystem) (path : String) : Bool :=
  match system.resolve path with
  | .ok _ => true
  | .error _ => false

def isDirectory (system : FileSystem) (path : String) : Bool :=
  match system.resolve path with
  | .ok node => system.isDirectoryNode node
  | .error _ => false

def changeEntries (system : FileSystem) (directory : NodeId)
    (change : Index String NodeId → Index String NodeId) : FileSystem :=
  { system with
    nodes := system.nodes.modify directory fun
      | .directory parent entries => .directory parent (change entries)
      | other => other }

/-- Adds a node under a name in a directory. -/
def addNode (system : FileSystem) (directory : NodeId) (name : String)
    (node : Node) : NodeId × FileSystem :=
  let grown :=
    { system with
      nodes := system.nodes.insert system.next node
      next := system.next + 1 }
  (system.next, grown.changeEntries directory fun entries =>
    entries.insert name system.next)

/-- Finds a place where a new name can be put. -/
def freePlace (system : FileSystem) (path : String) (directoryWanted : Bool) :
    Except IoFault (NodeId × String) := do
  match ← system.locate path with
  | .node _ => .error (.system .entryExists)
  | .entry directory name directoryOnly =>
      match ← (system.entry? directory name).mapError .system with
      | some _ => .error (.system .entryExists)
      | none =>
          if directoryOnly && !directoryWanted then
            .error (.system .noEntry)
          else
            return (directory, name)

def makeDirectory (system : FileSystem) (path : String) :
    Except IoFault FileSystem := do
  let (directory, name) ← system.freePlace path true
  return (system.addNode directory name (.directory directory .empty)).2

/-- A file system with the given directory and those above it, empty but for
each other, where relative paths start in the first. -/
def workingIn (path : String) : FileSystem :=
  (PathName.plainNames path).foldl
    (fun system name =>
      let (node, grown) :=
        system.addNode system.here name (.directory system.here .empty)
      { grown with here := node })
    fresh

/-- Opens a file for writing, which creates it if it is missing. -/
def openForWriting (system : FileSystem) (path : String) :
    Except IoFault (NodeId × FileSystem) := do
  match ← system.locate path with
  | .node _ => .error (.system .isADirectory)
  | .entry directory _ true => do
      discard ((system.directory? directory).mapError .system)
      .error (.system .isADirectory)
  | .entry directory name false =>
      match ← (system.entry? directory name).mapError .system with
      | none => return system.addNode directory name (.regular [])
      | some node =>
          match system.node? node with
          | some (.regular _) => return (node, system)
          | some .socket => .error (.system .noDevice)
          | _ => .error (.system .isADirectory)

def setContent (system : FileSystem) (node : NodeId) (content : Bytes) :
    FileSystem :=
  { system with nodes := system.nodes.modify node fun _ => .regular content }

def content? (system : FileSystem) (node : NodeId) : Option Bytes :=
  match system.node? node with
  | some (.regular content) => some content
  | _ => none

def writeFile (system : FileSystem) (path : String) (content : Bytes) :
    Except IoFault FileSystem := do
  let (node, opened) ← system.openForWriting path
  return opened.setContent node content

def readFile (system : FileSystem) (path : String) : Except IoFault Bytes := do
  match system.node? (← system.resolve path) with
  | some (.regular content) => return content
  | some .socket => .error (.system .noDevice)
  | _ => .error (.system .isADirectory)

/-- Removes the name of a file. -/
def removeFile (system : FileSystem) (path : String) :
    Except IoFault FileSystem := do
  match ← system.locate path with
  | .node _ => .error (.system .isADirectory)
  | .entry directory name directoryOnly =>
      match ← (system.entry? directory name).mapError .system with
      | none => .error (.system .noEntry)
      | some node =>
          if system.isDirectoryNode node then
            .error (.system .isADirectory)
          else if directoryOnly then
            .error (.system .notADirectory)
          else
            return system.changeEntries directory fun entries =>
              entries.erase name

/-- The number of bytes that no socket address reaches. -/
def maxAddressLength : Nat := 108

/-- Binds a socket to a path.  An empty path binds an address without a name. -/
def bindSocket (system : FileSystem) (path : String) :
    Except IoFault FileSystem := do
  if path.toList.contains (Char.ofNat 0) then
    .error .nulInAddress
  else if maxAddressLength ≤ path.utf8ByteSize then
    .error .addressTooLong
  else if path.isEmpty then
    return system
  else
    match system.freePlace path false with
    | .ok (directory, name) => return (system.addNode directory name .socket).2
    | .error (.system .entryExists) => .error (.system .addressInUse)
    | .error fault => .error fault

/-- Takes the advisory lock of a node, unless it is held. -/
def lockNode (system : FileSystem) (node : NodeId) :
    Except IoFault FileSystem :=
  if node ∈ system.locked then
    .error (.system .tryAgain)
  else
    .ok { system with locked := node :: system.locked }

/-- Gives up the advisory lock of a node. -/
def unlockNode (system : FileSystem) (node : NodeId) : FileSystem :=
  { system with locked := system.locked.erase node }

/-- Makes the first of the given directories, and as many of those after it as
it takes: each is the directory above the one before it. -/
def makeLineage : List String → FileSystem → Except IoFault Unit × FileSystem
  | [], system => (.ok (), system)
  | path :: above, system =>
      match system.makeDirectory path with
      | .ok made => (.ok (), made)
      | .error fault =>
          if fault.kind = .notFound then
            match makeLineage above system with
            | (.error missing, made) => (.error missing, made)
            | (.ok _, made) =>
                match made.makeDirectory path with
                | .ok complete => (.ok (), complete)
                | .error again =>
                    (if made.isDirectory path then .ok () else .error again, made)
          else
            (if system.isDirectory path then .ok () else .error fault, system)

/-- Makes a directory and those above it that are missing.  An empty path
stands for the directory at which relative paths start, which is there. -/
def makeDirectories (system : FileSystem) (path : String) :
    Except IoFault Unit × FileSystem :=
  if path.isEmpty then (.ok (), system)
  else makeLineage (PathName.lineage path) system

/-- Writes a file and makes the directories above it that are missing. -/
def writeUnder (system : FileSystem) (path : String) (content : Bytes) :
    Except IoFault Unit × FileSystem :=
  match system.makeDirectories (PathName.parent path) with
  | (.error fault, made) => (.error fault, made)
  | (.ok _, made) =>
      match made.writeFile path content with
      | .error fault => (.error fault, made)
      | .ok written => (.ok (), written)

/-- Everything below a directory, depth first and by name: each entry with its
path and, for a regular file, its content.  Directories are followed as deep
as there are nodes. -/
def listing (system : FileSystem) :
    (depth : Nat) → (above : List String) → NodeId →
      List (List String × Option Bytes)
  | 0, _, _ => []
  | depth + 1, above, node =>
      match system.directory? node with
      | .error _ => []
      | .ok (_, entries) =>
          (entries.entries.mergeSort fun first second => first.1 ≤ second.1).flatMap
            fun (name, child) =>
              let path := above ++ [name]
              (path, system.content? child) :: system.listing depth path child

def tree (system : FileSystem) : List (List String × Option Bytes) :=
  system.listing system.nodes.size [] system.root

end FileSystem

end FileDepot
