import FormatConformance.Fault

/-!
# Scripted files

A file system for commands to run on, in which every path leads to a directory, to a file or
nowhere, and no file is a program. A path is walked name by name. The walk fails at a name behind
anything but a directory, and at a name that is too long; what becomes of reading, writing and
starting is decided by what stands at its end.
-/

namespace FormatConformance.Scripted

/-- The names on the way from the root, the last one first. -/
abbrev Place := List String

/-- A file system. -/
structure Files where
  directories : List Place
  /-- The files with their contents. -/
  files : List (Place × String)
  /-- The files to which nothing can be added, since there is no space for it. -/
  full : List Place
  /-- The directory in which a path starts that does not start at the root. -/
  here : Place
  /-- The directory in which programs are looked up by their bare names. -/
  programs : Place
  deriving DecidableEq, Repr

/-- What stands at a place. -/
inductive Holding
  | directory
  | file (content : String)
  /-- A file without space for a text. -/
  | full
  | nothing
  deriving DecidableEq, Repr

namespace Files

/-- The most bytes of a name. -/
def longestName : Nat :=
  255

/-- The most bytes of a path. -/
def longestPath : Nat :=
  4095

/-- Whether a place is a directory. The root is one. -/
def isDirectory (fs : Files) (place : Place) : Bool :=
  place.isEmpty || fs.directories.contains place

/-- What stands at a place. -/
def holding (fs : Files) (place : Place) : Holding :=
  if fs.isDirectory place then .directory
  else if fs.full.contains place then .full
  else
    match fs.files.find? fun f => f.1 = place with
    | some f => .file f.2
    | none => .nothing

/-! ## Walking -/

/-- The place to which a name leads from a directory. -/
def step (fs : Files) (place : Place) (name : String) : Except SystemFault Place :=
  match fs.holding place with
  | .directory =>
    if name = "" ∨ name = "." then .ok place
    else if name = ".." then .ok place.tail
    else if longestName < name.utf8ByteSize then .error .nameTooLong
    else .ok (name :: place)
  | .nothing => .error .notFound
  | _ => .error .notDirectory

/-- The place to which some names lead. -/
def walk (fs : Files) (place : Place) (names : List String) : Except SystemFault Place :=
  names.foldlM fs.step place

/-- The names of a path. Behind a slash at its end there is an empty one. -/
def names (path : String) : Except SystemFault (List String) :=
  if path = "" then .error .notFound
  else if longestPath < path.utf8ByteSize then .error .nameTooLong
  else .ok (path.splitOn "/")

/-- Where a path starts. -/
def start (fs : Files) (path : String) : Place :=
  if path.startsWith "/" then [] else fs.here

/-- The place to which a path leads. -/
def reach (fs : Files) (path : String) : Except SystemFault Place := do
  fs.walk (fs.start path) (← names path)

/-! ## Reading, writing and starting -/

/-- The path, unless there is a NUL inside. -/
def withoutNul (cause : SystemFault) (path : String) : Except SystemFault String :=
  if path.toList.contains '\x00' then .error cause else .ok path

/-- The content of the file at a place. -/
def contentAt (fs : Files) (place : Place) : Except SystemFault String :=
  match fs.holding place with
  | .directory => .error .isDirectory
  | .file content => .ok content
  | .full => .ok ""
  | .nothing => .error .notFound

/-- The content of the file to which a path leads. -/
def read (fs : Files) (path : String) : Except SystemFault String := do
  fs.contentAt (← fs.reach (← withoutNul .nulInPath path))

/-- The place at which a path asks for a file to be made. A slash at its end asks for a directory,
even where there is none yet. -/
def target (fs : Files) (path : String) : Except SystemFault Place := do
  let names ← names path
  if names.getLast? = some "" then
    let parents := ((names.reverse.dropWhile (· = "")).drop 1).reverse
    let _ ← fs.walk (fs.start path) (parents ++ ["."])
    throw .isDirectory
  fs.walk (fs.start path) names

/-- The file system in which the file at a place has a content. -/
def put (fs : Files) (place : Place) (text : String) : Files :=
  { fs with files := (place, text) :: fs.files.filter fun f => f.1 ≠ place }

/-- Makes a text the whole content of the file at a place. Where there is no space, only the empty
text can be written. -/
def writeAt (fs : Files) (place : Place) (text : String) : Except SystemFault Files :=
  match fs.holding place with
  | .directory => .error .isDirectory
  | .full => if text = "" then .ok fs else .error .noSpace
  | _ => .ok (fs.put place text)

/-- Makes a text the whole content of the file to which a path leads. -/
def write (fs : Files) (path text : String) : Except SystemFault Files := do
  fs.writeAt (← fs.target (← withoutNul .nulInPath path)) text

/-- The place of a program. A bare name is looked up in the directory of programs. -/
def programPlace (fs : Files) (program : String) : Except SystemFault Place := do
  let parts ← names program
  if program.contains '/' then fs.walk (fs.start program) parts else fs.walk fs.programs parts

/-- The fault of starting what no program is. -/
def startFault (fs : Files) (program : String) : SystemFault :=
  match (do fs.programPlace (← withoutNul .nulInProgram program)) with
  | .error cause => cause
  | .ok place => if fs.holding place = .nothing then .notFound else .permissionDenied

end Files

end FormatConformance.Scripted
