import FormatConformance.CommandLine.Arguments
import FormatConformance.Numeral

/-!
# Commands

The commands of the program and the arguments that they take.
-/

namespace FormatConformance.CommandLine

/-- Where the two formatters come from, when the environment does not decide. -/
structure Formatters where
  library : Option String
  interpreter : Option String
  deriving DecidableEq, Repr

/-- What a run of the properties is told. -/
structure RunOptions where
  entries : List String
  cases : Option UInt32
  seed : Option String
  verbose : Bool
  log : Option String
  markdownReport : Option String
  jsonReport : Option String
  deriving DecidableEq, Repr

/-- The parts of one case. -/
structure ProbeOptions where
  entry : String
  value : String
  specifier : String
  before : String
  after : String
  deriving DecidableEq, Repr

/-- A command. -/
inductive Command
  /-- Runs the properties of entry points and the fixed scenarios. -/
  | run (formatters : Formatters) (options : RunOptions)
  /-- Verifies the fixed scenarios. -/
  | scenarios (formatters : Formatters) (report : Option String)
  /-- Checks one case. -/
  | probe (formatters : Formatters) (options : ProbeOptions)
  /-- Shows the difference between two payloads. -/
  | diff (expected actual : String)
  deriving DecidableEq, Repr

namespace Command

/-- The formatters that a command is given, if it uses any. -/
def formatters? : Command → Option Formatters
  | run formatters _ => some formatters
  | scenarios formatters _ => some formatters
  | probe formatters _ => some formatters
  | diff _ _ => none

/-! ## Signatures -/

/-- An option with any text for its value. -/
def textOption (name : String) : Opt :=
  ⟨name, true, false, false, fun _ => true⟩

/-- An option with a text for its value that may begin with a hyphen. -/
def anyTextOption (name : String) : Opt :=
  ⟨name, true, true, false, fun _ => true⟩

/-- An option that names a file. -/
def pathOption (name : String) : Opt :=
  ⟨name, true, false, false, fun value => !value.isEmpty⟩

/-- A number of cases. -/
def readCases? (text : String) : Option UInt32 :=
  match Numeral.readSigned 0x8000000000000000 0x7fffffffffffffff text.toList with
  | .ok (.ofNat n) => if n ≤ Numeral.maxWord32 then some (UInt32.ofNat n) else none
  | _ => none

/-- The options for the formatters. -/
def formatterOptions : List Opt :=
  [pathOption "bridge-lib", textOption "python"]

/-- The arguments of `run`. -/
def runSignature : Signature where
  options := formatterOptions ++
    [{ textOption "entry" with many := true },
      { textOption "cases" with accepts := fun value => (readCases? value).isSome },
      textOption "seed",
      { textOption "verbose" with takesValue := false },
      pathOption "log", pathOption "report-md", pathOption "report-json"]
  places := []

/-- The arguments of `scenarios`. -/
def scenariosSignature : Signature where
  options := formatterOptions ++ [pathOption "report"]
  places := []

/-- The arguments of `probe`. -/
def probeSignature : Signature where
  options := formatterOptions ++
    [textOption "spec", anyTextOption "prefix", anyTextOption "suffix"]
  places := [⟨true, false⟩, ⟨false, true⟩]

/-- The arguments of `diff`. -/
def diffSignature : Signature where
  options := []
  places := [⟨true, false⟩, ⟨true, false⟩]

/-! ## Reading -/

/-- The formatters among the options. -/
def givenFormatters (g : Given) : Formatters :=
  ⟨g.value? "bridge-lib", g.value? "python"⟩

/-- The command `run` with its arguments. -/
def ofRun (g : Given) : Command :=
  .run (givenFormatters g)
    { entries := g.values "entry"
      cases := (g.value? "cases").bind readCases?
      seed := g.value? "seed"
      verbose := g.has "verbose"
      log := g.value? "log"
      markdownReport := g.value? "report-md"
      jsonReport := g.value? "report-json" }

/-- The command `probe` with its arguments. -/
def ofProbe (g : Given) : Command :=
  .probe (givenFormatters g)
    { entry := g.places.getD 0 ""
      value := g.places.getD 1 ""
      specifier := (g.value? "spec").getD ""
      before := (g.value? "prefix").getD ""
      after := (g.value? "suffix").getD "" }

/-- The names of the commands, with their arguments and how these are read. -/
def table : List (String × Signature × (Given → Command)) :=
  [("run", runSignature, ofRun),
    ("scenarios", scenariosSignature, fun g => .scenarios (givenFormatters g) (g.value? "report")),
    ("probe", probeSignature, ofProbe),
    ("diff", diffSignature, fun g => .diff (g.places.getD 0 "") (g.places.getD 1 ""))]

/-- The arguments of a command by its name, and how these are read. -/
def find? (name : String) : Option (Signature × (Given → Command)) :=
  (table.find? fun row => row.1 = name).map (·.2)

/-- Whether some arguments ask for help on a command that there is. -/
def asksHelp : List String → Bool
  | [] => true
  | [name] => name = "help" || (find? name).isSome
  | _ => false

/-- Reads a command line. -/
def read : List String → Except Stop Command
  | [] => .error .misuse
  | name :: arguments =>
    if name = "help" then .error (if asksHelp arguments then .help else .misuse)
    else
      match find? name with
      | some (signature, command) => (signature.read arguments).map command
      | none =>
        match Form.of name with
        | .long "help" none => .error .help
        | .short ('h' :: _) => .error .help
        | _ => .error .misuse

end Command

end FormatConformance.CommandLine
