import LintDaemon.Text.Quoted

/-!
# Faults of the operating system

* `SystemFault`: a fault, by its number, its wording and the file it is about.

The numbers and wordings are those of one operating system. Only faults that the program asks for by
their number, or that the files here can meet, have a name; any other can be built all the same.
-/

namespace LintDaemon

/-- A fault that the operating system reports. -/
structure SystemFault where
  /-- Its number. -/
  number : Int
  /-- Its wording. -/
  text : String
  /-- The file it is about, if it is about one. -/
  path : Option String
  deriving DecidableEq, Repr

namespace SystemFault

/-- The wording of a fault, with its number and its file. -/
def message (f : SystemFault) : String :=
  "[Errno " ++ toString f.number ++ "] " ++ f.text ++
    match f.path with
    | none => ""
    | some path => ": " ++ Text.quote path

/-- A fault about a file. -/
def about (f : SystemFault) (path : String) : SystemFault :=
  { f with path := some path }

/-- Nothing is there. -/
def noEntry : SystemFault := ⟨2, "No such file or directory", none⟩

/-- What is there cannot be opened: a socket, for one. -/
def noDevice : SystemFault := ⟨6, "No such device or address", none⟩

/-- The arguments of a program take too much room. -/
def argumentsTooLong : SystemFault := ⟨7, "Argument list too long", none⟩

/-- A file that is to run is no program. -/
def noProgram : SystemFault := ⟨8, "Exec format error", none⟩

/-- A socket is closed. -/
def badDescriptor : SystemFault := ⟨9, "Bad file descriptor", none⟩

/-- The file may not be used that way. -/
def permissionDenied : SystemFault := ⟨13, "Permission denied", none⟩

/-- Something is there already. -/
def entryExists : SystemFault := ⟨17, "File exists", none⟩

/-- A part of a path that has parts below it is no directory. -/
def noDirectory : SystemFault := ⟨20, "Not a directory", none⟩

/-- A directory is where a file is wanted. -/
def isDirectory : SystemFault := ⟨21, "Is a directory", none⟩

/-- The reader of a connection has gone. -/
def brokenPipe : SystemFault := ⟨32, "Broken pipe", none⟩

/-- A path or a part of it is too long. -/
def nameTooLong : SystemFault := ⟨36, "File name too long", none⟩

/-- The number of the fault that an address is in use. -/
def addressInUse : Int := 98

/-- The other side of a connection has not been heard of for too long. -/
def connectionTimedOut : SystemFault := ⟨110, "Connection timed out", none⟩

/-- Nobody listens at an address. -/
def connectionRefused : SystemFault := ⟨111, "Connection refused", none⟩

end SystemFault

end LintDaemon
