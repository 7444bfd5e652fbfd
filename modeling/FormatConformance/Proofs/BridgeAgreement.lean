import FormatConformance.Adjudication
import FormatConformance.Subject.Bridge
import FormatConformance.Subject.Echo
import FormatConformance.Proofs.Computation

/-!
# Adjudication behind the bridge

A library says in two ways that it rejects an input: its probe reports so, or its formatter returns
nothing. The bridge takes either for a failure when it renders, but adjudication asks the probe
alone once the reference has failed. `Bridge.adjudicate_agree_iff` says how far the two ways lead to
the same verdict: they part exactly where the reference fails, the probe reports nothing and the
formatter returns nothing (`Bridge.ReturnsNull`), and there the verdict is a mismatch between two
failures.
-/

namespace FormatConformance

variable {σ : Type}

/-! ## Adjudication by the answer of the reference

Once the reference has answered, its state does not matter any more: what follows is a computation
on the subject alone, which is chosen by the outcome of the reference. -/

theorem askReference_run {sides : Sides σ} {c : Case} {s t : σ} {answer : Reference.Answer}
    (asked : (sides.format c).run s = (.ok answer, t)) :
    (sides.askReference c).run s = (.ok answer, t) := by
  show (((sides.format c).run s).1.mapError Fault.reference, ((sides.format c).run s).2) = _
  rw [asked]
  rfl

/-- Behind an answer that no divergence covers, the subject decides. -/
theorem adjudicate_run {sides : Sides σ} {c : Case} {s t : σ} {answer : Reference.Answer}
    (asked : (sides.format c).run s = (.ok answer, t)) (uncovered : CarveOut.find? answer = none) :
    (adjudicate sides c).run s =
      match answer.outcome with
      | .failure _ =>
        (do
          if ← sides.askProbe c then return ⟨answer, probeRejected, .agree⟩
          else
            let subject ← sides.askSubject c
            return ⟨answer, subject, .of c answer.outcome subject (some .subjectAccepted)⟩ :
          Check σ Observation).run t
      | .success expected =>
        (do
          let subject ← sides.askSubject c
          return ⟨answer, subject,
            .of c answer.outcome subject (payloadMismatch? c expected subject)⟩ :
          Check σ Observation).run t := by
  rw [adjudicate, Check.run_bind_of_ok (askReference_run asked), uncovered]
  cases answer.outcome <;> rfl

/-- Two outcomes agree: both are failures, or both are payloads that count as equal. -/
def OutcomesAgree (c : Case) : Outcome → Outcome → Prop
  | .failure _, .failure _ => True
  | .success a, .success b => Payload.equivalent c a b = true
  | _, _ => False

theorem of_eq_agree_iff {c : Case} {reference subject : Outcome} {wrong : Option MismatchKind} :
    Verdict.of c reference subject wrong = .agree ↔ wrong = none := by
  cases wrong <;> simp [Verdict.of]

theorem payloadMismatch?_eq_none_iff {c : Case} {expected : Bytes} {subject : Outcome} :
    payloadMismatch? c expected subject = none ↔ OutcomesAgree c (.success expected) subject := by
  cases subject with
  | failure reason => simp [payloadMismatch?, OutcomesAgree]
  | success actual => simp [payloadMismatch?, OutcomesAgree]

theorem outcomesAgree_failure_iff {c : Case} {reason : String} {subject : Outcome} :
    OutcomesAgree c (.failure reason) subject ↔ subject.isFailure = true := by
  cases subject <;> simp [OutcomesAgree, Outcome.isFailure, Outcome.isSuccess]

/-- A reference that rendered a payload is never said to be stricter than the subject. -/
theorem kind_of_payloadMismatch? {c : Case} {reference subject : Outcome} {expected : Bytes}
    {m : Mismatch}
    (h : Verdict.of c reference subject (payloadMismatch? c expected subject) = .mismatch m) :
    m.kind ≠ .subjectAccepted := by
  cases wrong : payloadMismatch? c expected subject with
  | none =>
    rw [wrong] at h
    cases h
  | some kind =>
    rw [wrong] at h
    cases h
    rintro rfl
    cases subject with
    | failure reason => cases wrong
    -- A payload leaves two kinds, and neither is the one that was assumed.
    | success actual =>
      rw [payloadMismatch?] at wrong
      split at wrong <;> cases wrong

namespace Subject.Bridge

variable (b : Bridge) {c : Case} {input : Bytes × Native}

/-! ## The two ways to reject

The probe and the formatter see the same input once it has been marshalled, so both are told here by
what the library does on that input. -/

/-- The library returns nothing for an input that its probe does not reject. -/
def ReturnsNull (c : Case) (input : Bytes × Native) : Prop :=
  b.library.probe c.entryPoint input.1 input.2 = false ∧
    b.library.render c.entryPoint input.1 input.2 = none

theorem probeCase_of_marshal (h : marshal c.entryPoint c.template c.argument = .ok input) :
    b.probeCase c = .ok (b.library.probe c.entryPoint input.1 input.2) := by
  rw [probeCase, probe, h]
  rfl

theorem invokeCase_of_marshal (h : marshal c.entryPoint c.template c.argument = .ok input) :
    b.invokeCase c = .ok (b.call c.entryPoint input.1 input.2) := by
  rw [invokeCase, invoke, h]
  rfl

/-- A failure of the bridge is a rejection by the probe, or else a null. -/
theorem call_isFailure_iff :
    (b.call c.entryPoint input.1 input.2).isFailure = true ↔
      b.library.probe c.entryPoint input.1 input.2 = true ∨ b.ReturnsNull c input := by
  rw [call, ReturnsNull]
  cases b.library.probe c.entryPoint input.1 input.2 with
  | true => simp [Outcome.isFailure, Outcome.isSuccess]
  | false =>
    -- Without a rejection by the probe only a null is left to make it a failure.
    cases b.library.render c.entryPoint input.1 input.2 <;>
      simp [Outcome.isFailure, Outcome.isSuccess]

/-! ## The verdict -/

variable {format : Case → StateM σ (Except ReferenceFault Reference.Answer)}

theorem askProbe_run (h : marshal c.entryPoint c.template c.argument = .ok input) (t : σ) :
    ((b.sides format).askProbe c).run t =
      (.ok (b.library.probe c.entryPoint input.1 input.2), t) := by
  show ((b.probeCase c).mapError Fault.marshal, t) = _
  rw [b.probeCase_of_marshal h]
  rfl

theorem askSubject_run (h : marshal c.entryPoint c.template c.argument = .ok input) (t : σ) :
    ((b.sides format).askSubject c).run t = (.ok (b.call c.entryPoint input.1 input.2), t) := by
  show ((b.invokeCase c).mapError Fault.marshal, t) = _
  rw [b.invokeCase_of_marshal h]
  rfl

/-- When the reference fails, the probe alone decides, and the formatter is asked for the record. -/
theorem adjudicate_of_failure {s t : σ} {answer : Reference.Answer} {reason : String}
    (asked : (format c).run s = (.ok answer, t)) (uncovered : CarveOut.find? answer = none)
    (marshals : marshal c.entryPoint c.template c.argument = .ok input)
    (failed : answer.outcome = .failure reason) :
    (adjudicate (b.sides format) c).run s =
      (.ok (if b.library.probe c.entryPoint input.1 input.2 then ⟨answer, probeRejected, .agree⟩
        else ⟨answer, b.call c.entryPoint input.1 input.2,
          .mismatch ⟨.subjectAccepted, c, answer.outcome, b.call c.entryPoint input.1 input.2⟩⟩),
        t) := by
  rw [adjudicate_run asked uncovered]
  simp only [failed]
  rw [Check.run_bind_of_ok (b.askProbe_run marshals t)]
  cases b.library.probe c.entryPoint input.1 input.2 with
  | true => rfl
  | false => exact Check.run_bind_of_ok (b.askSubject_run marshals t)

/-- When the reference renders a payload, the formatter is compared with it. -/
theorem adjudicate_of_success {s t : σ} {answer : Reference.Answer} {expected : Bytes}
    (asked : (format c).run s = (.ok answer, t)) (uncovered : CarveOut.find? answer = none)
    (marshals : marshal c.entryPoint c.template c.argument = .ok input)
    (rendered : answer.outcome = .success expected) :
    (adjudicate (b.sides format) c).run s =
      (.ok ⟨answer, b.call c.entryPoint input.1 input.2,
        .of c answer.outcome (b.call c.entryPoint input.1 input.2)
          (payloadMismatch? c expected (b.call c.entryPoint input.1 input.2))⟩, t) := by
  rw [adjudicate_run asked uncovered]
  simp only [rendered]
  exact Check.run_bind_of_ok (b.askSubject_run marshals t)

/-- The verdict is agreement when both outcomes are failures or both are equivalent payloads, with
one exception: a null that the probe did not announce is no rejection to adjudication, although it
is a failure to the bridge. When the reference failed the probe alone decides, and a subject that
counts as accepting rendered something unless it returned null. -/
theorem adjudicate_agree_iff {s t : σ} {answer : Reference.Answer}
    (asked : (format c).run s = (.ok answer, t)) (uncovered : CarveOut.find? answer = none)
    (marshals : marshal c.entryPoint c.template c.argument = .ok input) :
    ∃ outcome o, b.invokeCase c = .ok outcome ∧
      (adjudicate (b.sides format) c).run s = (.ok o, t) ∧
      (o.verdict = .agree ↔ OutcomesAgree c answer.outcome outcome ∧
        ¬(answer.outcome.isFailure = true ∧ b.ReturnsNull c input)) ∧
      (answer.outcome.isFailure = true →
        b.probeCase c = .ok true ∧ o.verdict = .agree ∨
        b.probeCase c = .ok false ∧
          o.verdict = .mismatch ⟨.subjectAccepted, c, answer.outcome, outcome⟩) ∧
      ∀ m, o.verdict = .mismatch m → m.kind = .subjectAccepted →
        m.subject = outcome ∧ (outcome.isFailure = true ↔ b.ReturnsNull c input) := by
  have invoked : b.invokeCase c = .ok (b.call c.entryPoint input.1 input.2) :=
    b.invokeCase_of_marshal marshals
  have failure_iff : (b.call c.entryPoint input.1 input.2).isFailure = true ↔
      b.library.probe c.entryPoint input.1 input.2 = true ∨ b.ReturnsNull c input :=
    b.call_isFailure_iff
  cases outcome : answer.outcome with
  | failure reason =>
    refine ⟨_, _, invoked, b.adjudicate_of_failure asked uncovered marshals outcome, ?_⟩
    rw [outcomesAgree_failure_iff, failure_iff, b.probeCase_of_marshal marshals]
    cases probed : b.library.probe c.entryPoint input.1 input.2 with
    | true =>
      -- The probe rejected, which a null on its own does not.
      have not_null : ¬b.ReturnsNull c input := fun null => by simp [null.1] at probed
      simp [not_null]
    | false =>
      refine ⟨?_, fun _ => .inr ⟨rfl, by simp [outcome]⟩, ?_⟩
      · -- The subject counts as accepting, whether or not it rendered anything.
        simp [Outcome.isFailure, Outcome.isSuccess]
      · rintro m found -
        cases found
        exact ⟨rfl, by simp⟩
  | success expected =>
    refine ⟨_, _, invoked, b.adjudicate_of_success asked uncovered marshals outcome, ?_, ?_, ?_⟩
    · rw [of_eq_agree_iff, payloadMismatch?_eq_none_iff]
      simp [Outcome.isFailure, Outcome.isSuccess]
    · simp [Outcome.isFailure, Outcome.isSuccess]
    · intro m found accepted
      -- The kind that was assumed needs a reference that failed.
      exact absurd accepted (kind_of_payloadMismatch? found)

/-- The echo library behind the bridge. -/
def echoBridge : Bridge :=
  ⟨"", Echo.library⟩

def refusal : Reference.Answer :=
  .failure .malformedSpecifier "bad"

/-- A reference that refuses every case. -/
def refuse : Case → StateM Unit (Except ReferenceFault Reference.Answer) :=
  fun _ => pure (.ok refusal)

theorem adjudicate_agree_iff_rejected :
    ∃ o, (adjudicate (echoBridge.sides refuse) (.ofTemplate "!")).run () = (.ok o, ()) ∧
      o.verdict = .agree := by
  have asked : (refuse (.ofTemplate "!")).run () = (.ok refusal, ()) := rfl
  have uncovered : CarveOut.find? refusal = none := by decide +kernel
  have marshals : marshal .nothing (Case.ofTemplate "!").template .nothing =
      .ok ([0x21], .nothing) := rfl
  obtain ⟨outcome, o, -, ran, -, decided, -⟩ :=
    echoBridge.adjudicate_agree_iff asked uncovered marshals
  have probed : echoBridge.probeCase (.ofTemplate "!") = .ok true := rfl
  rcases decided rfl with ⟨-, agreed⟩ | ⟨accepted, -⟩
  · exact ⟨o, ran, agreed⟩
  · -- The probe did not accept, so the other case cannot be.
    rw [probed] at accepted
    cases accepted

/-- Both outcomes are failures and yet the verdict is a mismatch, of a subject that is said to
accept the case. -/
theorem mismatch_of_two_failures :
    CarveOut.find? refusal = none ∧
    ∃ outcome o, echoBridge.invokeCase (.ofTemplate "~null~") = .ok outcome ∧
      (adjudicate (echoBridge.sides refuse) (.ofTemplate "~null~")).run () = (.ok o, ()) ∧
      refusal.outcome.isFailure = true ∧ outcome.isFailure = true ∧
      o.verdict = .mismatch ⟨.subjectAccepted, .ofTemplate "~null~", refusal.outcome, outcome⟩ :=
  ⟨by decide +kernel, .failure "FormatNothing returned null", _, rfl, rfl, rfl, rfl, rfl⟩

end Subject.Bridge

end FormatConformance
