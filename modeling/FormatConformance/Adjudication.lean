import FormatConformance.Mismatch
import FormatConformance.Payload
import FormatConformance.Sides
import FormatConformance.Text.Search

/-!
# Adjudication

Whether the two sides agree on a case. The reference is asked first. A documented divergence in
its answer discards the case; after a rejection the probe of the subject must report one too; after
a payload the subject must render an equivalent one. The subject alone is asked twice to see
whether its answers depend on anything but the case.
-/

namespace FormatConformance

/-- The documented divergences, which are accepted and not reported. -/
inductive CarveOut
  /-- The reference forbids a numbered field behind an unnumbered one; a subject may allow it. -/
  | automaticToManualNumbering
  deriving DecidableEq, Repr

namespace CarveOut

/-- Every divergence that is in force. -/
def all : List CarveOut :=
  [automaticToManualNumbering]

/-- The name of a divergence in reports. -/
def name : CarveOut → String
  | automaticToManualNumbering => "automatic_to_manual_field_numbering"

/-- The words in the reason of the reference by which a divergence is known. -/
def mark : CarveOut → String
  | automaticToManualNumbering => "cannot switch from automatic field numbering"

/-- Whether a divergence covers an answer of the reference. -/
def covers (carveOut : CarveOut) (answer : Reference.Answer) : Bool :=
  match answer.outcome with
  | .failure reason => Text.occursIn carveOut.mark.toList reason.toList
  | .success _ => false

/-- The first divergence that covers an answer. -/
def find? (answer : Reference.Answer) : Option CarveOut :=
  all.find? (covers · answer)

end CarveOut

/-- What a check says about a case. -/
inductive Verdict
  | agree
  /-- A documented divergence: the case does not count and another one is drawn. -/
  | discard (carveOut : CarveOut)
  | mismatch (found : Mismatch)
  deriving DecidableEq, Repr

/-- The mismatch of a verdict. -/
def Verdict.mismatch? : Verdict → Option Mismatch
  | .mismatch m => some m
  | _ => none

/-- What adjudication saw. -/
structure Observation where
  reference : Reference.Answer
  subject : Outcome
  verdict : Verdict
  deriving DecidableEq, Repr

/-- Two answers of the subject to one case. -/
structure Rerun where
  first : Outcome
  second : Outcome
  verdict : Verdict
  deriving DecidableEq, Repr

/-- The stand-in for the outcome of a subject that was not asked. -/
def notAsked : Outcome :=
  .failure "not invoked: carve-out"

/-- The stand-in for the outcome of a subject whose probe reported a rejection. -/
def probeRejected : Outcome :=
  .failure "rejected by error probe"

/-- The kind of mismatch between a payload of the reference and an outcome of the subject. -/
def payloadMismatch? (c : Case) (expected : Bytes) : Outcome → Option MismatchKind
  | .failure _ => some .subjectRejected
  | .success actual => if Payload.equivalent c expected actual then none else some .payloadDiffers

/-- The verdict for two outcomes, given what is wrong with them. -/
def Verdict.of (c : Case) (reference subject : Outcome) : Option MismatchKind → Verdict
  | none => .agree
  | some kind => .mismatch ⟨kind, c, reference, subject⟩

/-- Adjudicates one case. -/
def adjudicate {σ : Type} (sides : Sides σ) (c : Case) : Check σ Observation := do
  let answer ← sides.askReference c
  match CarveOut.find? answer with
  | some carveOut => return ⟨answer, notAsked, .discard carveOut⟩
  | none =>
    match answer.outcome with
    | .failure _ =>
      if ← sides.askProbe c then return ⟨answer, probeRejected, .agree⟩
      else
        let subject ← sides.askSubject c
        return ⟨answer, subject, .of c answer.outcome subject (some .subjectAccepted)⟩
    | .success expected =>
      let subject ← sides.askSubject c
      return ⟨answer, subject, .of c answer.outcome subject (payloadMismatch? c expected subject)⟩

/-- Whether two answers of the subject agree: equal payloads, or two rejections. -/
def sameAnswer : Outcome → Outcome → Bool
  | .success a, .success b => a = b
  | .failure _, .failure _ => true
  | _, _ => false

/-- Asks the subject twice. -/
def checkIdempotent {σ : Type} (sides : Sides σ) (c : Case) : Check σ Rerun := do
  let first ← sides.askSubject c
  let second ← sides.askSubject c
  let wrong := if sameAnswer first second then none else some .nonDeterministic
  return ⟨first, second, .of c first second wrong⟩

end FormatConformance
