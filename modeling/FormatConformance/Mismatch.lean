import FormatConformance.Case
import FormatConformance.Diff
import FormatConformance.Outcome
import FormatConformance.Text.Inspect

/-!
# Mismatches

A disagreement with everything that is needed to replay it by hand: the case, what kind of
disagreement it is, and the two outcomes.
-/

namespace FormatConformance

/-- The kinds of disagreement. -/
inductive MismatchKind
  /-- The reference rejected the case and the subject did not. -/
  | subjectAccepted
  /-- The reference rendered the case and the subject rejected it. -/
  | subjectRejected
  /-- Both rendered the case, to different payloads. -/
  | payloadDiffers
  /-- Two calls of the subject on the case disagree. -/
  | nonDeterministic
  deriving DecidableEq, Repr

namespace MismatchKind

/-- Every kind. -/
def all : List MismatchKind :=
  [subjectAccepted, subjectRejected, payloadDiffers, nonDeterministic]

/-- The name of a kind in reports. -/
def name : MismatchKind → String
  | subjectAccepted => "subject_accepted"
  | subjectRejected => "subject_rejected"
  | payloadDiffers => "payload_differs"
  | nonDeterministic => "non_deterministic"

/-- The name of a kind as a constructor. -/
def constructorName : MismatchKind → String
  | subjectAccepted => "SubjectAccepted"
  | subjectRejected => "SubjectRejected"
  | payloadDiffers => "PayloadDiffers"
  | nonDeterministic => "NonDeterministic"

/-- What the two outcomes are called, filled up to a common width. -/
def sideLabels : MismatchKind → String × String
  | nonDeterministic => ("first call ", "second call")
  | _ => ("reference  ", "subject    ")

end MismatchKind

/-- A disagreement. When two calls of the subject disagree, the first stands for the reference. -/
structure Mismatch where
  kind : MismatchKind
  input : Case
  reference : Outcome
  subject : Outcome
  deriving DecidableEq, Repr

namespace Mismatch

/-- The mismatch on a few lines, with a diff when both outcomes are payloads. -/
def text (m : Mismatch) : String :=
  let (left, right) := m.kind.sideLabels
  let diff := match m.reference, m.subject with
    | .success a, .success b => "\n" ++ Diff.render a b
    | _, _ => ""
  m.kind.name ++ ": " ++ m.input.replay ++ "\n  " ++ left ++ " " ++ m.reference.text
    ++ "\n  " ++ right ++ " " ++ m.subject.text ++ diff

/-- A mismatch as it stands in reports. The fields are texts, since a record may also have been
read from a file. -/
structure Record where
  kind : String
  input : Case.Record
  replay : String
  reference : Outcome.Record
  subject : Outcome.Record
  detail : String
  deriving DecidableEq, Repr

/-- The record of a mismatch. -/
def record (m : Mismatch) : Record where
  kind := m.kind.name
  input := m.input.record
  replay := m.input.replay
  reference := m.reference.record
  subject := m.subject.record
  detail := m.text

open Text in
/-- An argument on one line. -/
def inspectArgument : Argument → String
  | .nothing => "None"
  | .int value => Inspect.applied "Int" (String.ofList (Numeral.signedDecimal value.toInt))
  | .single bits =>
    Inspect.applied "Float32"
      (String.ofList (Argument.floatStyle.text Ieee.single bits.toNat))
  | .double bits =>
    Inspect.applied "Float64"
      (String.ofList (Argument.floatStyle.text Ieee.double bits.toNat))
  | .text value => Inspect.applied "Str" (Inspect.string value)

open Text in
/-- A case on one line. -/
def inspectCase (c : Case) : String :=
  Inspect.record "FormatCase"
    [("prefix", Inspect.string c.before), ("specifier", Inspect.string c.specifier),
      ("suffix", Inspect.string c.after), ("value", inspectArgument c.argument)]

open Text in
/-- An outcome on one line. -/
def inspectOutcome : Outcome → String
  | .success payload =>
    Inspect.applied "Success" (Inspect.list (payload.map fun b => toString b.toNat))
  | .failure reason => Inspect.applied "Failure" (Inspect.string reason)

/-- The mismatch on one line. -/
def inspect (m : Mismatch) : String :=
  Text.Inspect.record "Mismatch"
    [("kind", m.kind.constructorName), ("case", inspectCase m.input),
      ("reference", inspectOutcome m.reference), ("subject", inspectOutcome m.subject)]

end Mismatch

end FormatConformance
