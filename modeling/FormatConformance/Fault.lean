import FormatConformance.EntryPoint
import FormatConformance.Text.Inspect

/-!
# Faults

What keeps a check from being made. That a formatter rejects an input is an outcome and never a
fault. Every fault has a message for readers, and a form on one line in which a failing command
shows it.
-/

namespace FormatConformance

open Text

/-- A fault of the operating system. -/
inductive SystemFault
  /-- A numbered error with the name of its kind. -/
  | numbered (code : Nat) (kind message : String)
  /-- An error that is known by its description only. -/
  | described (kind message : String)
  /-- An error that carries a text of its own. -/
  | other (text : String)
  deriving DecidableEq, Repr

namespace SystemFault

/-- A file that does not exist. -/
def notFound : SystemFault :=
  numbered 2 "NotFound" "No such file or directory"

/-- A file that may not be used in this way. -/
def permissionDenied : SystemFault :=
  numbered 13 "PermissionDenied" "Permission denied"

/-- A file where a directory is wanted. -/
def notDirectory : SystemFault :=
  numbered 20 "NotADirectory" "Not a directory"

/-- A directory where a file is wanted. -/
def isDirectory : SystemFault :=
  numbered 21 "IsADirectory" "Is a directory"

/-- A device on which there is no space. -/
def noSpace : SystemFault :=
  numbered 28 "StorageFull" "No space left on device"

/-- A write into a pipe that nobody reads. -/
def brokenPipe : SystemFault :=
  numbered 32 "BrokenPipe" "Broken pipe"

/-- A name of more bytes than a name can have. -/
def nameTooLong : SystemFault :=
  numbered 36 "InvalidFilename" "File name too long"

/-- A line of bytes that are not text. -/
def invalidText : SystemFault :=
  described "InvalidData" "stream did not contain valid UTF-8"

/-- The name of a program with a NUL inside. -/
def nulInProgram : SystemFault :=
  described "InvalidInput" "nul byte found in provided data"

/-- The name of a file with a NUL inside. -/
def nulInPath : SystemFault :=
  described "InvalidInput" "file name contained an unexpected NUL byte"

/-- The fault of starting a program that does not exist. -/
def absentProgram (program : String) : SystemFault :=
  if program.toList.contains '\x00' then nulInProgram else notFound

/-- The message of the fault. -/
def message : SystemFault → String
  | numbered code _ message => message ++ " (os error " ++ toString code ++ ")"
  | described _ message => message
  | other text => text

/-- The fault on one line. -/
def inspect : SystemFault → String
  | numbered code kind message =>
    Inspect.record "Os"
      [("code", toString code), ("kind", kind), ("message", Inspect.string message)]
  | described kind message =>
    Inspect.record "Error" [("kind", kind), ("message", Inspect.string message)]
  | other text => Inspect.record "Custom" [("kind", "Other"), ("error", Inspect.string text)]

end SystemFault

/-- A fault in talking to the reference. -/
inductive ReferenceFault
  /-- The program could not be started. -/
  | spawn (program : String) (cause : SystemFault)
  /-- A pipe to or from the worker failed. -/
  | pipe (cause : SystemFault)
  /-- The worker ended without an answer. -/
  | exited
  /-- The worker answered with a line that is no response. -/
  | protocol (line reason : String)
  deriving DecidableEq, Repr

namespace ReferenceFault

/-- The message of the fault. -/
def message : ReferenceFault → String
  | spawn program cause =>
    "failed to spawn reference interpreter `" ++ program ++ "`: " ++ cause.message
  | pipe cause => "reference worker pipe failed: " ++ cause.message
  | exited => "reference worker exited"
  | protocol line reason =>
    "malformed reference response " ++ Quoted.quoteString line ++ ": " ++ reason

/-- The fault on one line. -/
def inspect : ReferenceFault → String
  | spawn program cause =>
    Inspect.record "Spawn" [("program", Inspect.string program), ("source", cause.inspect)]
  | pipe cause => Inspect.applied "Io" cause.inspect
  | exited => "Exited"
  | protocol line reason =>
    Inspect.record "Protocol" [("line", Inspect.string line), ("reason", Inspect.string reason)]

end ReferenceFault

/-- An input that the calling convention of the subject cannot carry. -/
inductive MarshalFault
  /-- A text with a NUL inside would be cut short. -/
  | interiorNul (what : String) (position : Nat)
  /-- The argument is of another kind than the entry point takes. -/
  | shape (symbol given : String)
  deriving DecidableEq, Repr

namespace MarshalFault

/-- The message of the fault. -/
def message : MarshalFault → String
  | interiorNul what position =>
    what ++ " contains an interior NUL at byte " ++ toString position
  | shape symbol given => "entry point `" ++ symbol ++ "` cannot take a " ++ given ++ " argument"

/-- The fault on one line. -/
def inspect : MarshalFault → String
  | interiorNul what position =>
    Inspect.record "InteriorNul"
      [("what", Inspect.string what), ("position", toString position)]
  | shape symbol given =>
    Inspect.record "ArgumentShape"
      [("entry", Inspect.string symbol), ("given", Inspect.string given)]

end MarshalFault

/-- A subject library that cannot be used. -/
inductive LoadFault
  /-- No path was given, in the arguments or in the environment. -/
  | notConfigured (setting : String)
  | unopened (path reason : String)
  | missingSymbol (path symbol reason : String)
  deriving DecidableEq, Repr

namespace LoadFault

/-- The message of the fault. -/
def message : LoadFault → String
  | notConfigured setting => "subject library not configured (set " ++ setting ++ ")"
  | unopened path reason => "failed to load subject library " ++ path ++ ": " ++ reason
  | missingSymbol path symbol reason =>
    "subject library " ++ path ++ " does not export `" ++ symbol ++ "`: " ++ reason

/-- The fault on one line. -/
def inspect : LoadFault → String
  | notConfigured setting => Inspect.record "NotConfigured" [("env", Inspect.string setting)]
  | unopened path reason =>
    Inspect.record "Open" [("path", Inspect.string path), ("reason", Inspect.string reason)]
  | missingSymbol path symbol reason =>
    Inspect.record "MissingSymbol"
      [("path", Inspect.string path), ("symbol", Inspect.string symbol),
        ("reason", Inspect.string reason)]

end LoadFault

/-- Whatever keeps a check from being made. -/
inductive Fault
  | load (cause : LoadFault)
  | marshal (cause : MarshalFault)
  | reference (cause : ReferenceFault)
  | grammar (pattern reason : String)
  | system (cause : SystemFault)
  deriving DecidableEq, Repr

namespace Fault

/-- The message of the fault. -/
def message : Fault → String
  | load cause => cause.message
  | marshal cause => cause.message
  | reference cause => cause.message
  | grammar pattern reason => "invalid generator grammar `" ++ pattern ++ "`: " ++ reason
  | system cause => cause.message

/-- The fault on one line. -/
def inspect : Fault → String
  | load cause => Inspect.applied "BridgeLoad" cause.inspect
  | marshal cause => Inspect.applied "Marshal" cause.inspect
  | reference cause => Inspect.applied "Reference" cause.inspect
  | grammar pattern reason =>
    Inspect.record "Grammar"
      [("pattern", Inspect.string pattern), ("reason", Inspect.string reason)]
  | system cause => Inspect.applied "Io" cause.inspect

end Fault

end FormatConformance
