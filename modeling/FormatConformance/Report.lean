import FormatConformance.Json.Printer
import FormatConformance.Seed
import FormatConformance.Verification

/-!
# Reports

What a run came to: the result of every property, the summary of the fixed cases, and what the run
was made with. A report is written as markdown for readers and as JSON that can be read back.
-/

namespace FormatConformance

open Json

/-- How a property ended. -/
inductive PropertyStatus
  /-- Every case agreed. -/
  | pass
  /-- A mismatch was found. -/
  | fail
  /-- It could not be finished. -/
  | abort
  deriving DecidableEq, Repr

namespace PropertyStatus

/-- Every status. -/
def all : List PropertyStatus :=
  [pass, fail, abort]

/-- The name of a status. -/
def name : PropertyStatus → String
  | pass => "pass"
  | fail => "fail"
  | abort => "abort"

/-- The label of a status in tables. -/
def label : PropertyStatus → String
  | pass => "PASS"
  | fail => "FAIL"
  | abort => "ABORT"

end PropertyStatus

/-- The result of one property for one entry point. -/
structure PropertyResult where
  entryPoint : String
  property : String
  status : PropertyStatus
  /-- The cases that agreed. -/
  passed : UInt64
  /-- The cases that were drawn again because a documented divergence covers them. -/
  discarded : UInt64
  firstFailure : Option Mismatch.Record
  minimalFailure : Option Mismatch.Record
  abortReason : Option String
  /-- How long it took, in milliseconds. -/
  duration : UInt64
  deriving DecidableEq, Repr

namespace PropertyResult

/-- Whether every case agreed. -/
def isPass (r : PropertyResult) : Bool :=
  r.status = .pass

/-- The JSON form of a result. -/
def toJson (r : PropertyResult) : Json :=
  .record [field "entry_point" (.string r.entryPoint), field "property" (.string r.property),
    field "status" (.string r.status.name), field "passed" (.nat r.passed.toNat),
    field "discarded" (.nat r.discarded.toNat),
    optionalField "first_failure" Mismatch.Record.toJson r.firstFailure,
    optionalField "minimal_failure" Mismatch.Record.toJson r.minimalFailure,
    optionalField "abort_reason" .string r.abortReason,
    field "duration_ms" (.nat r.duration.toNat)]

/-- Reads a result. -/
def ofDocument? (d : Document) : Option PropertyResult := do
  match ← Schema.slots? ["entry_point", "property", "status", "passed", "discarded",
      "first_failure", "minimal_failure", "abort_reason", "duration_ms"] 9 d with
  | [entryPoint, property, status, passed, discarded, first, minimal, reason, duration] =>
    let entryPoint ← Schema.required? Schema.text? entryPoint
    let property ← Schema.required? Schema.text? property
    let status ← Schema.required? (Schema.word? PropertyStatus.all PropertyStatus.name) status
    let passed ← Schema.required? readWord64? passed
    let discarded ← Schema.required? readWord64? discarded
    let first ← Schema.absentOr? Mismatch.Record.ofDocument? first
    let minimal ← Schema.absentOr? Mismatch.Record.ofDocument? minimal
    let reason ← Schema.absentOr? Schema.text? reason
    let duration ← Schema.required? readWord64? duration
    return ⟨entryPoint, property, status, passed, discarded, first, minimal, reason, duration⟩
  | _ => none

/-- The row of a result, with its line break. -/
def row (r : PropertyResult) : List Char :=
  "| ".toList ++ r.entryPoint.toList ++ " | ".toList ++ r.property.toList ++ " | ".toList
    ++ r.status.label.toList ++ " | ".toList ++ Numeral.decimal r.passed.toNat ++ " | ".toList
    ++ Numeral.decimal r.discarded.toNat ++ " | ".toList ++ Numeral.decimal r.duration.toNat
    ++ " |\n".toList

/-- A text in a fenced block below a heading. -/
def fenced (heading : String) (text : String) : List Char :=
  heading.toList ++ ":\n\n```\n".toList ++ text.toList ++ "\n```\n".toList

/-- The section of a property that did not pass. -/
def failureSection (r : PropertyResult) : List Char :=
  "\n## ".toList ++ r.entryPoint.toList ++ " / ".toList ++ r.property.toList ++ "\n\n".toList
    ++ ((r.abortReason.map fun reason =>
      "Aborted: ".toList ++ reason.toList ++ ['\n']).getD [])
    ++ ((r.minimalFailure.map fun m => fenced "Minimal counterexample" m.detail).getD [])
    ++ ((r.firstFailure.map fun m => '\n' :: fenced "First observed" m.detail).getD [])

end PropertyResult

/-- The library that a run was made with. -/
structure Artifact where
  path : String
  sha256 : String
  deriving DecidableEq, Repr

namespace Artifact

/-- The artifact at a path, its content read in pieces. -/
def ofPieces (path : String) (pieces : List Bytes) : Artifact :=
  ⟨path, Sha256.hex (Sha256.Hasher.digestPieces pieces)⟩

/-- The JSON form of an artifact. -/
def toJson (a : Artifact) : Json :=
  .record [field "path" (.string a.path), field "sha256" (.string a.sha256)]

/-- Reads an artifact. -/
def ofDocument? (d : Document) : Option Artifact := do
  match ← Schema.slots? ["path", "sha256"] 2 d with
  | [path, sha256] =>
    let path ← Schema.required? Schema.text? path
    let sha256 ← Schema.required? Schema.text? sha256
    return ⟨path, sha256⟩
  | _ => none

end Artifact

/-- The report of a run. -/
structure Report where
  title : String
  timestamp : String
  /-- The seed, with which the run can be repeated. -/
  seed : String
  reference : String
  subject : Option Artifact
  /-- How many cases each property had to see agree. -/
  casesPerProperty : UInt32
  properties : List PropertyResult
  scenarios : Option Verification.Summary
  deriving DecidableEq, Repr

namespace Report

/-- A report of nothing yet. -/
def new (now : Instant) (title : String) (seed : Seed) (reference : String) : Report :=
  ⟨title, now.timestamp, seed.text, reference, none, 0, [], none⟩

/-- Whether every property passed and no fixed case failed. -/
def allPassed (r : Report) : Bool :=
  r.properties.all PropertyResult.isPass && r.scenarios.all Verification.Summary.allPassed

/-- The JSON form of a report. -/
def toJson (r : Report) : Json :=
  .record [field "title" (.string r.title), field "timestamp" (.string r.timestamp),
    field "seed" (.string r.seed), field "reference" (.string r.reference),
    optionalField "subject" Artifact.toJson r.subject,
    field "cases_per_property" (.nat r.casesPerProperty.toNat),
    field "properties" (.array (r.properties.map PropertyResult.toJson)),
    optionalField "scenarios" Verification.Summary.toJson r.scenarios]

/-- The JSON text of a report. -/
def page (r : Report) : String :=
  r.toJson.page

/-- Reads a report from a document. -/
def ofDocument? (d : Document) : Option Report := do
  match ← Schema.slots? ["title", "timestamp", "seed", "reference", "subject",
      "cases_per_property", "properties", "scenarios"] 8 d with
  | [title, timestamp, seed, reference, subject, cases, properties, scenarios] =>
    let title ← Schema.required? Schema.text? title
    let timestamp ← Schema.required? Schema.text? timestamp
    let seed ← Schema.required? Schema.text? seed
    let reference ← Schema.required? Schema.text? reference
    let subject ← Schema.absentOr? Artifact.ofDocument? subject
    let cases ← Schema.required? readWord32? cases
    let properties ← Schema.required? (Schema.list? PropertyResult.ofDocument?) properties
    let scenarios ← Schema.absentOr? Verification.Summary.ofDocument? scenarios
    return ⟨title, timestamp, seed, reference, subject, cases, properties, scenarios⟩
  | _ => none

/-- Reads a report from a text. -/
def read? (text : String) : Option Report := do
  let document ← Document.read? text
  ofDocument? document

/-! ## Markdown -/

/-- The list of what the run was made with. -/
def heading (r : Report) : List Char :=
  let labelled := Verification.Summary.labelled
  "# ".toList ++ r.title.toList ++ "\n\n".toList
    ++ labelled "Timestamp" r.timestamp.toList ++ labelled "Seed" r.seed.toList
    ++ labelled "Reference" r.reference.toList
    ++ ((r.subject.map fun a =>
      labelled "Subject" (a.path.toList ++ " (sha256 ".toList ++ a.sha256.toList ++ [')'])).getD [])
    ++ labelled "Cases per property" (Numeral.decimal r.casesPerProperty.toNat) ++ ['\n']

/-- The table of the properties, when there are any. -/
def propertyTable (r : Report) : List Char :=
  if r.properties.isEmpty then []
  else
    "| Entry | Property | Status | Passed | Discarded | ms |\n".toList
      ++ "|-------|----------|--------|--------|-----------|----|\n".toList
      ++ r.properties.flatMap PropertyResult.row

/-- The section of the fixed cases, one heading level further in than a summary on its own. -/
def scenarioSection (r : Report) : List Char :=
  (r.scenarios.map fun s => '\n' :: '#' :: s.markdown "Fixed scenarios").getD []

/-- The markdown form of a report. -/
def markdown (r : Report) : List Char :=
  r.heading ++ r.propertyTable
    ++ (r.properties.filter fun p => !p.isPass).flatMap PropertyResult.failureSection
    ++ r.scenarioSection

end Report

end FormatConformance
