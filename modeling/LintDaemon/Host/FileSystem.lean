import LintDaemon.Host.Fault
import LintDaemon.Host.Path

/-!
# Files

A file system is a finite tree of directories, files and sockets. A file may be a program: what it
does when it is run is part of it.

* `FileSystem.locate`: walking along a path.
* `FileSystem.leadsTo`: the place that a path names, without walking there.
* `FileSystem.query`, `FileSystem.isDirectory`, `FileSystem.isExecutable`: questions about a path.
* `FileSystem.makeDirectories`, `FileSystem.write`, `FileSystem.removeTree`: changes.

Walking is done part by part: each part but the last has to lead to a directory, and the parent of
a directory is the one that holds it.

Scope: all that is there can be read, written and entered, and there are no links, so that a place
has one path from the root. Of what is neither a directory nor a file sockets stand for all: they
cannot be opened, but they have permissions. Pipes and devices, which can be opened and may never
end, are not modelled.
-/

namespace LintDaemon

open LintDaemon.Text

/-- What a program is run with. -/
structure Launch where
  /-- The directory it works in. -/
  directory : String
  /-- Its arguments, its own name not among them. -/
  arguments : List String
  /-- What the file named by its last argument holds. -/
  source : List UInt8
  deriving DecidableEq, Repr

/-- What a program has done when it has ended. -/
structure Run where
  /-- What it wrote to the standard error. -/
  stderr : List UInt8
  /-- What it wrote to the standard output. -/
  stdout : List UInt8
  /-- Its exit status. -/
  status : Nat
  deriving DecidableEq, Repr

/-- What can be at a place. -/
inductive Node
  /-- A directory; what it holds are the nodes one part below it. -/
  | directory
  /-- A file: what it holds, whether it may be run, and what it does when it is run, if it is a
  program. -/
  | file (content : List UInt8) (executable : Bool) (program : Option (Launch → Run))
  /-- A socket: neither a directory nor a file. Its permissions may say that it can be run, but it
  cannot. -/
  | socket (executable : Bool)

/-- Whether a node is a directory. -/
def Node.isDirectory : Node → Bool
  | .directory => true
  | .file _ _ _ | .socket _ => false

/-- Whether the permissions of a node say that it can be run. -/
def Node.mayRun : Node → Bool
  | .directory => true
  | .file _ executable _ | .socket executable => executable

/-- What a node that is opened to be read holds, or why it cannot be opened. -/
def Node.read : Node → Except SystemFault (List UInt8)
  | .directory => .error .isDirectory
  | .file content _ _ => .ok content
  | .socket _ => .error .noDevice

/-- Where a node is: the parts from the root on. -/
abbrev Place := List String

/-- A file system: the nodes below the root and where they are. -/
structure FileSystem where
  /-- The nodes. -/
  nodes : List (Place × Node)

namespace FileSystem

/-- The node at a place; the root is a directory. -/
def node? (fs : FileSystem) (place : Place) : Option Node :=
  if place = [] then some .directory else fs.nodes.lookup place

/-- The most bytes a part of a path may have. -/
def maxPartBytes : Nat := 255

/-- The bytes from which on a path is too long. -/
def pathByteLimit : Nat := 4096

/-- One step from a place: to the same directory, to the parent, or to a part below. -/
def step (fs : FileSystem) (place : Place) (part : String) : Except SystemFault Place :=
  match fs.node? place with
  | none => .error .noEntry
  | some (.file _ _ _) | some (.socket _) => .error .noDirectory
  | some .directory =>
    if part = "" ∨ part = "." then .ok place
    else if part = ".." then .ok place.dropLast
    else if maxPartBytes < part.utf8ByteSize then .error .nameTooLong
    else .ok (place ++ [part])

/-- Steps along parts. -/
def walk (fs : FileSystem) : Place → List String → Except SystemFault Place
  | place, [] => .ok place
  | place, part :: rest =>
    match fs.step place part with
    | .ok place => fs.walk place rest
    | .error e => .error e

/-- The place that a written path leads to from a directory, whether a node is there or not. -/
def placeOf (fs : FileSystem) (directory : Place) (path : String) : Except SystemFault Place :=
  if path = "" then .error .noEntry
  else if pathByteLimit ≤ path.utf8ByteSize then .error .nameTooLong
  else
    let start := if path.toList.head? = some '/' then [] else directory
    fs.walk start (fieldsOf '/' path)

/-- One step from a place, whether anything is there or not. -/
def follow (place : Place) (part : String) : Place :=
  if part = "" ∨ part = "." then place
  else if part = ".." then place.dropLast
  else place ++ [part]

/-- The place that a written path names from a directory, whether one can walk there or not. -/
def leadsTo (directory : Place) (path : String) : Place :=
  let start := if path.toList.head? = some '/' then [] else directory
  (fieldsOf '/' path).foldl follow start

/-- Whether a place is inside another. -/
def isInside (above place : Place) : Bool :=
  above.isPrefixOf place && above.length < place.length

/-- The place and the node that a written path leads to from a directory. -/
def locate (fs : FileSystem) (directory : Place) (path : String) :
    Except SystemFault (Place × Node) :=
  match fs.placeOf directory path with
  | .error e => .error e
  | .ok place =>
    match fs.node? place with
    | some node => .ok (place, node)
    | none => .error .noEntry

/-- Whether a text holds the character that no path may hold. -/
def holdsNul (s : String) : Bool :=
  s.toList.contains '\x00'

/-- Whether a fault says that nothing is there, so that a question about the path is answered
with no. -/
def isAbsence (f : SystemFault) : Bool :=
  f.number == SystemFault.noEntry.number || f.number == SystemFault.noDirectory.number

/-- The node at a path, none if nothing is there; other faults are reported. -/
def query (fs : FileSystem) (directory : Place) (path : String) :
    Except SystemFault (Option Node) :=
  if holdsNul path then .ok none
  else
    match fs.locate directory path with
    | .ok (_, node) => .ok (some node)
    | .error e => if isAbsence e then .ok none else .error (e.about path)

/-- The node at a path; none on any fault. -/
def find? (fs : FileSystem) (directory : Place) (path : String) : Option Node :=
  match fs.query directory path with
  | .ok node => node
  | .error _ => none

/-- Whether a path is a file that may be run. -/
def isExecutable (fs : FileSystem) (directory : Place) (path : String) : Except SystemFault Bool :=
  match fs.query directory path with
  | .ok (some (.file _ executable _)) => .ok executable
  | .ok _ => .ok false
  | .error e => .error e

/-- Whether a path is a directory. -/
def isDirectory (fs : FileSystem) (directory : Place) (path : String) : Bool :=
  (fs.find? directory path).any Node.isDirectory

/-- Whether a directory holds anything. -/
def holdsAnything (fs : FileSystem) (place : Place) : Bool :=
  fs.nodes.any fun (p, _) => isInside place p

/-- A node put at a place, in the stead of one that was there. -/
def insert (fs : FileSystem) (place : Place) (node : Node) : FileSystem :=
  ⟨fs.nodes.filter (·.1 != place) ++ [(place, node)]⟩

/-- The directories above a place that are missing, put there. -/
def withParents (fs : FileSystem) (place : Place) : FileSystem :=
  (List.range place.length).foldl (fun fs n =>
    if (fs.node? (place.take n)).isSome then fs else fs.insert (place.take n) .directory) fs

/-- A node put at a place, with the directories above it. -/
def insertDeep (fs : FileSystem) (place : Place) (node : Node) : FileSystem :=
  (fs.withParents place).insert place node

/-- A file system without a place and all below it. -/
def removeTree (fs : FileSystem) (place : Place) : FileSystem :=
  ⟨fs.nodes.filter fun (p, _) => !place.isPrefixOf p⟩

/-- One directory made. -/
def makeDirectory (fs : FileSystem) (directory : Place) (path : String) :
    Except SystemFault FileSystem :=
  match fs.placeOf directory path with
  | .error e => .error (e.about path)
  | .ok place =>
    match fs.node? place with
    | some _ => .error (SystemFault.entryExists.about path)
    | none => .ok (fs.insert place .directory)

/-- One directory made; one that is there already is no fault. -/
def ensureDirectory (fs : FileSystem) (directory : Place) (path : String) :
    Except SystemFault FileSystem :=
  match fs.makeDirectory directory path with
  | .ok fs => .ok fs
  | .error e =>
    if e.number = SystemFault.noEntry.number then .error e
    else if fs.isDirectory directory path then .ok fs else .error e

/-- A directory made, and those above it that are missing; `depth` bounds how many. -/
def makeDirectoriesUpTo (directory : Place) : Nat → FileSystem → Path →
    FileSystem × Except SystemFault Unit
  | depth, fs, path =>
    match fs.ensureDirectory directory path.toString with
    | .ok fs => (fs, .ok ())
    | .error e =>
      match depth with
      | 0 => (fs, .error e)
      | depth + 1 =>
        if e.number = SystemFault.noEntry.number ∧ path.parent ≠ path then
          match makeDirectoriesUpTo directory depth fs path.parent with
          | (fs, .error e) => (fs, .error e)
          | (fs, .ok ()) =>
            match fs.ensureDirectory directory path.toString with
            | .ok fs => (fs, .ok ())
            | .error e => (fs, .error e)
        else (fs, .error e)

/-- A directory made, and those above it that are missing. Directories made before a fault
stay. -/
def makeDirectories (fs : FileSystem) (directory : Place) (path : Path) :
    FileSystem × Except SystemFault Unit :=
  makeDirectoriesUpTo directory path.parts.length fs path

/-- A file written, in the stead of one that was there. -/
def write (fs : FileSystem) (directory : Place) (path : String) (content : List UInt8) :
    Except SystemFault FileSystem :=
  match fs.placeOf directory path with
  | .error e => .error (e.about path)
  | .ok place =>
    match fs.node? place with
    | some .directory => .error (SystemFault.isDirectory.about path)
    | some (.socket _) => .error (SystemFault.noDevice.about path)
    | some (.file _ executable program) =>
      .ok (fs.insert place (.file content executable program))
    | none => .ok (fs.insert place (.file content false none))

end FileSystem

end LintDaemon
