import FormatConformance.Instant
import FormatConformance.Json.Printer
import FormatConformance.Record

/-!
# Log entries

One line of the structured log: a JSON object with four fields that are always there and eight that
are left out when they have no value.
-/

namespace FormatConformance.Log

open Json

/-- How much an entry matters. -/
inductive Level
  | trace
  | debug
  | info
  | warn
  | error
  deriving DecidableEq, Repr

namespace Level

/-- Every level. -/
def all : List Level :=
  [trace, debug, info, warn, error]

/-- The name of a level. -/
def name : Level → String
  | trace => "trace"
  | debug => "debug"
  | info => "info"
  | warn => "warn"
  | error => "error"

end Level

/-- What a check or a property came to. -/
inductive Status
  | pass
  | fail
  | discard
  | abort
  deriving DecidableEq, Repr

namespace Status

/-- Every status. -/
def all : List Status :=
  [pass, fail, discard, abort]

/-- The name of a status. -/
def name : Status → String
  | pass => "pass"
  | fail => "fail"
  | discard => "discard"
  | abort => "abort"

end Status

/-- An entry of the log. -/
structure Entry where
  timestamp : String
  traceId : String
  level : Level
  event : String
  entryPoint : Option String
  property : Option String
  outcome : Option Status
  input : Option Case.Record
  reference : Option Outcome.Record
  subject : Option Outcome.Record
  /-- How long it took, in milliseconds. -/
  duration : Option UInt64
  details : Option Json

namespace Entry

/-- An entry with the fields that are always there. -/
def new (now : Instant) (level : Level) (event : String) : Entry :=
  ⟨now.timestamp, "", level, event, none, none, none, none, none, none, none, none⟩

/-- The fields of an entry, in the order in which they are written. -/
def fieldNames : List String :=
  ["timestamp", "trace_id", "level", "event", "entry_point", "property", "outcome", "case",
    "reference", "subject", "duration_ms", "details"]

/-- The fields without which a line is no entry. -/
def requiredNames : List String :=
  ["timestamp", "trace_id", "level", "event"]

/-- The fields of an entry, those that are left out included. -/
def fields (e : Entry) : List (String × Option Json) :=
  [field "timestamp" (.string e.timestamp), field "trace_id" (.string e.traceId),
    field "level" (.string e.level.name), field "event" (.string e.event),
    optionalField "entry_point" .string e.entryPoint,
    optionalField "property" .string e.property,
    optionalField "outcome" (fun s => .string s.name) e.outcome,
    optionalField "case" Case.Record.toJson e.input,
    optionalField "reference" Outcome.Record.toJson e.reference,
    optionalField "subject" Outcome.Record.toJson e.subject,
    optionalField "duration_ms" (fun n => .nat n.toNat) e.duration,
    optionalField "details" id e.details]

/-- The JSON form of an entry. -/
def toJson (e : Entry) : Json :=
  .record e.fields

/-- Reads an entry. -/
def ofDocument? (d : Document) : Option Entry := do
  match ← Schema.slots? fieldNames 12 d with
  | [timestamp, traceId, level, event, entryPoint, property, outcome, input, reference, subject,
      duration, details] =>
    let timestamp ← Schema.required? Schema.text? timestamp
    let traceId ← Schema.required? Schema.text? traceId
    let level ← Schema.required? (Schema.word? Level.all Level.name) level
    let event ← Schema.required? Schema.text? event
    let entryPoint ← Schema.absentOr? Schema.text? entryPoint
    let property ← Schema.absentOr? Schema.text? property
    let outcome ← Schema.absentOr? (Schema.word? Status.all Status.name) outcome
    let input ← Schema.absentOr? Case.Record.ofDocument? input
    let reference ← Schema.absentOr? Outcome.Record.ofDocument? reference
    let subject ← Schema.absentOr? Outcome.Record.ofDocument? subject
    let duration ← Schema.absentOr? readWord64? duration
    let details ← Schema.absentOr? Document.evaluate details
    return ⟨timestamp, traceId, level, event, entryPoint, property, outcome, input, reference,
      subject, duration, details⟩
  | _ => none

/-- The line of an entry, without a line break. -/
def line (e : Entry) : String :=
  e.toJson.line

end Entry

end FormatConformance.Log
