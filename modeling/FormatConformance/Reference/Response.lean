import FormatConformance.Json.Printer
import FormatConformance.Json.Schema
import FormatConformance.Reference.Answer
import FormatConformance.Text.Blank

/-!
# Responses of the reference

A response is one line of JSON that says whether the template could be rendered, with the rendered
text or with the kind of failure and a message.
-/

namespace FormatConformance.Reference

open Json

/-- A response by its fields. -/
structure Response where
  ok : Bool
  value : Option String
  kind : Option FailureKind
  message : Option String
  deriving DecidableEq, Repr

namespace Response

/-- Reads a response. As an array it may leave out the fields behind the first. -/
def ofDocument? (d : Document) : Option Response := do
  match ← Schema.slots? ["ok", "value", "kind", "message"] 1 d with
  | [ok, value, kind, message] =>
    let ok ← Schema.required? Schema.bool? ok
    let value ← Schema.absentOr? Schema.text? value
    let kind ← Schema.absentOr? (Schema.word? FailureKind.all FailureKind.name) kind
    let message ← Schema.absentOr? Schema.text? message
    return ⟨ok, value, kind, message⟩
  | _ => none

/-- The response to a template that was rendered. -/
def success (value : String) : Response :=
  ⟨true, some value, none, none⟩

/-- The response to a template that was rejected. -/
def failure (kind : FailureKind) (message : String) : Response :=
  ⟨false, none, some kind, some message⟩

/-- The JSON form of a response; a field without a value is left out. -/
def toJson (r : Response) : Json :=
  .record [("ok", some (.bool r.ok)), ("value", r.value.map .string),
    ("kind", r.kind.map fun kind => .string kind.name), ("message", r.message.map .string)]

/-- The line of a response, without a line break. -/
def line (r : Response) : String :=
  r.toJson.line

/-- Why a line is no answer. -/
inductive Fault
  /-- The line is no response. -/
  | malformed
  | noValue
  | noKind
  deriving DecidableEq, Repr

/-- The wording of a fault. -/
def Fault.message : Fault → String
  | .malformed => "not a response"
  | .noValue => "success without value"
  | .noKind => "failure without kind"

/-- The answer that a response gives. -/
def answer (r : Response) : Except Fault Answer :=
  if r.ok then
    match r.value with
    | some value => .ok (.success (Text.bytesOf value))
    | none => .error .noValue
  else
    match r.kind with
    | some kind => .ok (.failure kind (r.message.getD ""))
    | none => .error .noKind

/-- Reads the line of a response. -/
def read (line : String) : Except Fault Answer :=
  match (Document.read? line).bind ofDocument? with
  | some response => response.answer
  | none => .error .malformed

/-- A line as it is shown when it is no answer: without white space at its end. -/
def shown (line : String) : String :=
  String.ofList (Text.trimEnd line.toList)

end Response

end FormatConformance.Reference
