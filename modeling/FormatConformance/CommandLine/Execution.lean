import FormatConformance.CommandLine.Command
import FormatConformance.Reference.Worker
import FormatConformance.Run.Runner
import FormatConformance.Subject.Bridge

/-!
# Executing commands

What a command prints, which files it writes and how it ends. The place that it runs in is a record
of what can be found there and what can be done there, so that the same commands run on a terminal
and in a test.
-/

namespace FormatConformance.CommandLine

/-- The place that a command runs in. -/
structure Host (m : Type → Type) (π : Type) where
  lookup : String → Option String
  clock : Clock (Reference.Session π)
  /-- The number of the process. -/
  process : Nat
  openImage : String → Except String Subject.Image
  /-- The content of a library, in pieces. -/
  content : String → Except SystemFault (List Bytes)
  /-- Starts an interpreter that plays the reference. -/
  start : String → Except SystemFault (Reference.Worker π × π)
  print : String → m Unit
  printError : String → m Unit
  /-- Makes a text the whole content of a file. -/
  write : String → String → m (Except SystemFault Unit)

/-- Why a command failed. -/
inductive Failure
  | message (text : String)
  | load (cause : LoadFault)
  | reference (cause : ReferenceFault)
  | fault (cause : Fault)
  | system (cause : SystemFault)
  | mismatch (found : Mismatch)
  deriving DecidableEq, Repr

/-- A failure on one line. -/
def Failure.inspect : Failure → String
  | message text => Text.Inspect.string text
  | load cause => cause.inspect
  | reference cause => cause.inspect
  | fault cause => cause.inspect
  | system cause => cause.inspect
  | mismatch found => found.inspect

/-- The sides that a worker and a library are. -/
def liveSides {π : Type} (worker : Reference.Worker π) (bridge : Subject.Bridge) :
    Sides (Reference.Session π) :=
  bridge.sides (Reference.Session.exchange worker)

/-- A command in the course of its execution. -/
abbrev Execution (m : Type → Type) := ExceptT Failure m

variable {m : Type → Type} [Monad m] {π : Type}

namespace Host

/-- Prints a text. -/
def say (h : Host m π) (text : String) : Execution m Unit :=
  ExceptT.lift (h.print text)

/-- Prints a line for errors and progress. -/
def tell (h : Host m π) (line : String) : Execution m Unit :=
  ExceptT.lift (h.printError (line ++ "\n"))

/-- Writes a file. -/
def save (h : Host m π) (path text : String) : Execution m Unit :=
  ExceptT.mk do return (← h.write path text).mapError .system

/-- Writes the log of a run, whose faults are faults of the run. -/
def saveLog (h : Host m π) (path text : String) : Execution m Unit :=
  ExceptT.mk do return (← h.write path text).mapError fun cause => .fault (.system cause)

/-- Writes a report and says so. -/
def saveReport (h : Host m π) (path text : String) : Execution m Unit := do
  h.save path text
  h.tell ("Wrote report to " ++ path)

/-- The settings of the environment with the formatters of the command line. -/
def settings (h : Host m π) (f : Formatters) : Settings :=
  let s := Settings.ofEnvironment h.lookup
  { s with library := f.library <|> s.library, interpreter := f.interpreter.getD s.interpreter }

/-- Loads the library of the settings. -/
def bridge (h : Host m π) (s : Settings) : Except Failure Subject.Bridge :=
  match s.library with
  | none => .error (.load (.notConfigured Settings.libraryVariable))
  | some path => (Subject.Bridge.load h.openImage path).mapError .load

/-- Starts the interpreter of the settings. -/
def worker (h : Host m π) (s : Settings) : Except Failure (Reference.Worker π × π) :=
  (h.start s.interpreter).mapError fun cause => .reference (.spawn s.interpreter cause)

end Host

/-- The result of a check by which a command may fail. -/
def orFault {α : Type} (result : Except Fault α) : Execution m α :=
  ExceptT.mk (return result.mapError .fault)

/-- The entry points that are named, or all of them. -/
def entriesOf? (names : List String) : Except Failure (List EntryPoint) :=
  if names.isEmpty then .ok EntryPoint.all
  else
    names.mapM fun name =>
      match EntryPoint.read? name with
      | some entry => .ok entry
      | none =>
        .error (.message ("Unsupported entry point '" ++ name
          ++ "', expected no_args|int|float|double|string"))

/-! ## Running the properties -/

/-- The seed that is given. -/
def seedOf? : Option String → Except Failure (Option Seed)
  | none => .ok none
  | some text =>
    match Seed.read? text with
    | some seed => .ok (some seed)
    | none => .error (.message ("Invalid seed '" ++ text ++ "'"))

/-- The settings of a run. -/
def runSettings? (s : Settings) (o : RunOptions) : Except Failure Settings := do
  let seed ← seedOf? o.seed
  return { s with
    cases := (o.cases.map fun n => max n 1).getD s.cases
    seed := seed <|> s.seed
    verbose := s.verbose || o.verbose
    log := o.log }

/-- The name of a run by its seed. -/
def runId (seed : Seed) : String :=
  "run-" ++ String.ofList (Numeral.paddedHex 16 seed.toNat)

/-- The line with which a run starts. -/
def startLine (entries : List EntryPoint) (s : Settings) (seed : Seed) : String :=
  "Running " ++ toString entries.length ++ " entry point(s), " ++ toString s.cases.toNat
    ++ " cases per property, seed " ++ seed.text

/-- The lines on a property. -/
def propertyLines (p : PropertyResult) : List String :=
  ["[" ++ p.status.label ++ "] " ++ p.entryPoint ++ " / " ++ p.property ++ ": passed="
      ++ toString p.passed.toNat ++ ", discarded=" ++ toString p.discarded.toNat]
    ++ (p.minimalFailure.map Mismatch.Record.detail).toList
    ++ (p.abortReason.map ("aborted: " ++ ·)).toList

/-- The counts of a summary. -/
def counts (s : Verification.Summary) : String :=
  "total=" ++ toString s.total.toNat ++ ", passed=" ++ toString s.passed.toNat ++ ", failed="
    ++ toString s.failed.toNat

/-- Where the log of a run goes: into its file, or to the errors when every case is logged. -/
def writeLog (h : Host m π) (s : Settings) (log : Log.Emitter) : Execution m Unit :=
  match s.log with
  | some path => h.saveLog path log.text
  | none => if s.verbose then ExceptT.lift (h.printError log.text) else pure ()

/-- Runs the properties and the fixed scenarios. -/
def executeRun (h : Host m π) (f : Formatters) (o : RunOptions) : Execution m Unit := do
  let settings ← runSettings? (h.settings f) o
  let entries ← entriesOf? o.entries
  let bridge ← h.bridge settings
  let (worker, start) ← h.worker settings
  let (now, session) := h.clock.wall.run (.start start)
  let runner := Run.Runner.ofSettings (liveSides worker bridge) h.clock settings
    (Seed.fresh now h.process)
  let seed := runner.circumstances.seed
  match settings.log with
  | some path => h.save path ""
  | none => pure ()
  h.tell (startLine entries settings seed)
  let (result, after) := ((runner.logged fun _ => pure (.ok ())).report "pyfmt Conformance Report"
    settings.interpreter entries Scenario.table).run ⟨session, .start (runId seed)⟩
  writeLog h settings after.record
  let report ← orFault result
  let pieces ← (h.content bridge.path).mapError Failure.system
  let report := { report with subject := some (Artifact.ofPieces bridge.path pieces) }
  (report.properties.flatMap propertyLines).forM h.tell
  (report.scenarios.map fun s => "Scenarios: " ++ counts s).toList.forM h.tell
  o.markdownReport.toList.forM fun path => h.saveReport path (String.ofList report.markdown)
  o.jsonReport.toList.forM fun path => h.saveReport path report.page
  if report.allPassed then return ()
  else throw (.message ("Conformance failed (replay with --seed " ++ report.seed ++ ")"))

/-! ## Other commands -/

/-- Verifies the fixed scenarios. -/
def executeScenarios (h : Host m π) (f : Formatters) (reportPath : Option String) :
    Execution m Unit := do
  let settings := h.settings f
  let bridge ← h.bridge settings
  let (worker, start) ← h.worker settings
  let summary ← orFault
    ((Scenario.verifyAll (liveSides worker bridge) Scenario.table).run (.start start)).1
  let body := String.ofList (summary.markdown "pyfmt Fixed Scenarios")
  match reportPath with
  | some path => h.saveReport path body
  | none => h.say body
  h.tell ("Scenarios complete: " ++ counts summary)
  if summary.allPassed then return () else throw (.message "Scenario verification failed")

/-- The case that is probed. -/
def probedCase? (o : ProbeOptions) : Except Failure Case :=
  match EntryPoint.read? o.entry with
  | none => .error (.message ("Unsupported entry point '" ++ o.entry ++ "'"))
  | some entry =>
    match Argument.read entry o.value with
    | .error text => .error (.message text)
    | .ok argument => .ok ⟨o.before, o.specifier, o.after, argument⟩

/-- A verdict in a word. -/
def verdictWord : Verdict → String
  | .agree => "agree"
  | .discard carveOut => "discard (" ++ carveOut.name ++ ")"
  | .mismatch m => m.kind.name

/-- What is printed of a probed case. -/
def observationText (c : Case) (o : Observation) : String :=
  "case:      " ++ c.replay ++ "\nreference: " ++ o.reference.outcome.text ++ "\nsubject:   "
    ++ o.subject.text ++ "\nverdict:   " ++ verdictWord o.verdict ++ "\n"

/-- Checks one case. -/
def executeProbe (h : Host m π) (f : Formatters) (o : ProbeOptions) : Execution m Unit := do
  let c ← probedCase? o
  let settings := h.settings f
  let bridge ← h.bridge settings
  let (worker, start) ← h.worker settings
  let seen ← orFault ((adjudicate (liveSides worker bridge) c).run (.start start)).1
  h.say (observationText c seen)
  match seen.verdict with
  | .mismatch m => throw (.mismatch m)
  | _ => return ()

/-- Executes a command. -/
def execute (h : Host m π) : Command → Execution m Unit
  | .run formatters options => executeRun h formatters options
  | .scenarios formatters report => executeScenarios h formatters report
  | .probe formatters options => executeProbe h formatters options
  | .diff expected actual => h.say (Diff.render (Text.bytesOf expected) (Text.bytesOf actual))

/-- How the program is used. -/
def usage : String :=
  String.intercalate "\n"
    ["Checks a formatting library against a reference interpreter.",
      "",
      "Usage:",
      "  run [--entry ENTRY]... [--cases N] [--seed SEED] [--verbose] [--log FILE]",
      "      [--report-md FILE] [--report-json FILE] [--bridge-lib LIB] [--python PROGRAM]",
      "  scenarios [--report FILE] [--bridge-lib LIB] [--python PROGRAM]",
      "  probe ENTRY [VALUE] [--spec TEXT] [--prefix TEXT] [--suffix TEXT]",
      "      [--bridge-lib LIB] [--python PROGRAM]",
      "  diff EXPECTED ACTUAL",
      ""]

/-- Executes a command line and gives the code with which the program ends: zero for success, one
for a failure, two for arguments that do not fit. -/
def executeLine (h : Host m π) (arguments : List String) : m UInt32 :=
  match Command.read arguments with
  | .error .help => do
    h.print usage
    return 0
  | .error .misuse => do
    h.printError usage
    return 2
  | .ok command => do
    match ← (execute h command).run with
    | .ok () => return 0
    | .error failure => do
      h.printError ("Error: " ++ failure.inspect ++ "\n")
      return 1

end FormatConformance.CommandLine
