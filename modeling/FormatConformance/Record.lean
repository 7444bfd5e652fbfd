import FormatConformance.Json.Schema
import FormatConformance.Mismatch

/-!
# Records in JSON

How the records of cases, outcomes and mismatches are written to reports and logs, and read from
them.
-/

namespace FormatConformance

open Json

/-- Reads a word of 64 bits. -/
def readWord64? (d : Document) : Option UInt64 :=
  (Schema.word64? d).map UInt64.ofNat

/-- Reads a word of 32 bits. -/
def readWord32? (d : Document) : Option UInt32 :=
  (Schema.word32? d).map UInt32.ofNat

/-- A field that is written in any case. -/
def field (name : String) (value : Json) : String × Option Json :=
  (name, some value)

/-- A field that is left out when it has no value. -/
def optionalField {α : Type} (name : String) (encode : α → Json) (value : Option α) :
    String × Option Json :=
  (name, value.map encode)

namespace Case.Record

/-- The JSON form of the record of a case. -/
def toJson (r : Case.Record) : Json :=
  .record [field "entry_point" (.string r.entryPoint), field "template" (.string r.template),
    field "value" (.string r.value)]

/-- Reads the record of a case. -/
def ofDocument? (d : Document) : Option Case.Record := do
  match ← Schema.slots? ["entry_point", "template", "value"] 3 d with
  | [entryPoint, template, value] =>
    let entryPoint ← Schema.required? Schema.text? entryPoint
    let template ← Schema.required? Schema.text? template
    let value ← Schema.required? Schema.text? value
    return ⟨entryPoint, template, value⟩
  | _ => none

end Case.Record

namespace Outcome.Record

/-- The JSON form of the record of an outcome. -/
def toJson (r : Outcome.Record) : Json :=
  .record [field "status" (.string r.status), optionalField "payload" .string r.payload,
    optionalField "reason" .string r.reason]

/-- Reads the record of an outcome. -/
def ofDocument? (d : Document) : Option Outcome.Record := do
  match ← Schema.slots? ["status", "payload", "reason"] 3 d with
  | [status, payload, reason] =>
    let status ← Schema.required? Schema.text? status
    let payload ← Schema.absentOr? Schema.text? payload
    let reason ← Schema.absentOr? Schema.text? reason
    return ⟨status, payload, reason⟩
  | _ => none

end Outcome.Record

namespace Mismatch.Record

/-- The JSON form of the record of a mismatch. -/
def toJson (r : Mismatch.Record) : Json :=
  .record [field "kind" (.string r.kind), field "case" r.input.toJson,
    field "replay" (.string r.replay), field "reference" r.reference.toJson,
    field "subject" r.subject.toJson, field "detail" (.string r.detail)]

/-- Reads the record of a mismatch. -/
def ofDocument? (d : Document) : Option Mismatch.Record := do
  match ← Schema.slots? ["kind", "case", "replay", "reference", "subject", "detail"] 6 d with
  | [kind, input, replay, reference, subject, detail] =>
    let kind ← Schema.required? Schema.text? kind
    let input ← Schema.required? Case.Record.ofDocument? input
    let replay ← Schema.required? Schema.text? replay
    let reference ← Schema.required? Outcome.Record.ofDocument? reference
    let subject ← Schema.required? Outcome.Record.ofDocument? subject
    let detail ← Schema.required? Schema.text? detail
    return ⟨kind, input, replay, reference, subject, detail⟩
  | _ => none

end Mismatch.Record

end FormatConformance
