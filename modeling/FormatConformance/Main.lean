import FormatConformance.CommandLine.Execution
import FormatConformance.Subject.Echo
import Std.Time.DateTime.Timestamp

/-!
# The program

Runs a command line on the terminal. The library named `echo` is built in, and the interpreter named
`-` is a recording: its answers are the lines of the standard input.
-/

namespace FormatConformance.Program

/-- The time by the clock. -/
def now : IO Instant := do
  let t ← Std.Time.Timestamp.now
  let nanoseconds := t.toNanosecondsSinceUnixEpoch.val
  return ⟨nanoseconds / 1000000000, (nanoseconds % 1000000000).toNat⟩

/-- A number that stands for the process. -/
def process : IO Nat := do
  return (← IO.getRandomBytes 4).toList.foldl (fun n b => n * 256 + b.toNat) 0

/-- The variables of the environment that the settings look up. -/
def environment : IO (List (String × String)) := do
  let found ← Settings.variableNames.mapM fun name => do return (← IO.getEnv name).map (name, ·)
  return found.filterMap id

/-- A fault of the system by what is said of it. -/
def systemFault : IO.Error → SystemFault
  | .noFileOrDirectory .. => .notFound
  | .permissionDenied .. => .permissionDenied
  | .inappropriateType .. => .isDirectory
  | e => .other (toString e)

/-- Makes a text the whole content of a file. -/
def write (path text : String) : IO (Except SystemFault Unit) := do
  match ← (IO.FS.writeFile path text).toBaseIO with
  | .ok () => return .ok ()
  | .error e => return .error (systemFault e)

/-- A worker that answers each request with the next line of a recording. -/
def recording : Reference.Worker Bytes where
  react _ bytes :=
    let (line, rest) := Reference.Session.firstLine bytes
    (⟨line, rest.isEmpty⟩, rest)

/-- The name of the interpreter that is a recording. -/
def recordingName : String :=
  "-"

/-- The name of the library that is built in. -/
def echoName : String :=
  "echo"

/-- The terminal, given the environment and the recording. A recording is played in no time, so the
clock stands still at the time at which the program was started. -/
def terminal (now : Instant) (process : Nat) (environment : List (String × String))
    (recorded : Bytes) : CommandLine.Host IO Bytes where
  lookup name := (environment.find? fun v => v.1 = name).map (·.2)
  clock := .stopped now
  process := process
  openImage path :=
    if path = echoName then .ok Subject.Echo.image else .error "no such library is built in"
  content _ := .ok []
  start program :=
    if program = recordingName then .ok (recording, recorded) else .error (.absentProgram program)
  print := IO.print
  printError := IO.eprint
  write := write

/-- Whether a command line takes its reference from a recording. -/
def wantsRecording (host : CommandLine.Host IO Bytes) (arguments : List String) : Bool :=
  match CommandLine.Command.read arguments with
  | .ok command =>
    command.formatters?.any fun f => (host.settings f).interpreter = recordingName
  | .error _ => false

/-- Reads the standard input to its end. -/
def readInput : IO Bytes := do
  return (← (← IO.getStdin).readBinToEnd).toList

/-- Runs a command line on the terminal. -/
def run (arguments : List String) : IO UInt32 := do
  let host := terminal (← now) (← process) (← environment)
  let recorded ← if wantsRecording (host []) arguments then readInput else pure []
  CommandLine.executeLine (host recorded) arguments

end FormatConformance.Program

/-- Runs the command line and ends with its code. -/
def main (arguments : List String) : IO UInt32 :=
  FormatConformance.Program.run arguments
