import FormatConformance.Adjudication
import FormatConformance.Verification

/-!
# Fixed scenarios

Cases that are checked in every run, each with what is expected of it: that both sides render a
given text, that both reject it, or only that they agree. The expectation is checked on the outcomes
beside the verdict.
-/

namespace FormatConformance

/-- What is expected of a case. -/
inductive Expectation
  /-- Both sides render this text. -/
  | renders (text : String)
  /-- Both sides reject the case. -/
  | rejected
  /-- The sides agree. -/
  | agreement
  deriving DecidableEq, Repr

/-- What is expected, for the report. -/
def Expectation.text : Expectation → String
  | .renders text => String.ofList (Text.Quoted.escape text.toList)
  | .rejected => "<rejected>"
  | .agreement => "<agreement>"

/-- A case with what is expected of it. -/
structure Scenario where
  input : Case
  expectation : Expectation
  deriving DecidableEq, Repr

namespace Scenario

/-- The name of a scenario in reports. -/
def name (s : Scenario) : String :=
  s.input.replay

/-! ## The table -/

/-- The scenarios with an expectation of their own. -/
def literalRows : List Scenario :=
  [⟨⟨"", "#x", "", .int 42⟩, .renders "0x2a"⟩,
    ⟨⟨"", "b", "", .int (-10)⟩, .renders "-1010"⟩,
    ⟨⟨"", ".6e", "", .double 0⟩, .renders "0.000000e+00"⟩,
    ⟨.ofTemplate "\x7b\x7d", .rejected⟩,
    ⟨⟨"", "<5", "", .text "ab"⟩, .renders "ab   "⟩]

/-- The specifiers that every integer is tried with. -/
def intSpecifiers : List String :=
  ["", "b", "x", "d", "X", "#x", "#X", "#d", "#b", "#o"]

/-- The integers that are tried. -/
def intValues : List Int32 :=
  [42, -10, 100000, 0, 2147483647]

/-- The singles that are tried: `1.2`, `-1.2`, `0.75`, `-1`, `0` and what is not a number. -/
def singleValues : List UInt32 :=
  [0x3f99999a, 0xbf99999a, 0x3f400000, 0xbf800000, 0, 0x7fc00000]

/-- The doubles that are tried: `1.2`, `-1.2`, `0.75`, `1/11`, `-1`, `0` and what is not a
number. -/
def doubleValues : List UInt64 :=
  [0x3ff3333333333333, 0xbff3333333333333, 0x3fe8000000000000, 0x3fb745d1745d1746,
    0xbff0000000000000, 0, 0x7ff8000000000000]

/-- Every scenario of the fixed table. -/
def table : List Scenario :=
  literalRows
    ++ (intValues.flatMap fun value => intSpecifiers.map fun specifier =>
      ⟨⟨"", specifier, "", .int value⟩, .agreement⟩)
    ++ singleValues.map (fun bits => ⟨⟨"", "", "", .single bits⟩, .agreement⟩)
    ++ doubleValues.map (fun bits => ⟨⟨"", "", "", .double bits⟩, .agreement⟩)

/-! ## Verification -/

/-- Whether an outcome renders a text, as payloads are compared for the case. -/
def rendersText (c : Case) (text : String) (outcome : Outcome) : Bool :=
  match outcome with
  | .success payload =>
    Payload.normalized c payload = Payload.normalized c (Text.bytesOf text)
  | .failure _ => false

/-- A complaint, when a condition does not hold. -/
def complaint (holds : Bool) (text : String) : List String :=
  if holds then [] else [text]

/-- What a verdict has to complain about. -/
def verdictProblems : Verdict → List String
  | .agree => []
  | .discard carveOut => ["discarded by carve-out " ++ carveOut.name]
  | .mismatch m => [m.text]

/-- What an expectation has to complain about. -/
def expectationProblems (c : Case) (o : Observation) : Expectation → List String
  | .renders text =>
    complaint (rendersText c text o.reference.outcome)
        ("reference did not render " ++ Text.Quoted.quoteString text)
      ++ complaint (rendersText c text o.subject)
        ("subject did not render " ++ Text.Quoted.quoteString text)
  | .rejected =>
    complaint o.reference.outcome.isFailure "reference accepted"
      ++ complaint o.subject.isFailure "subject accepted"
  | .agreement => []

/-- The result of a scenario, given what adjudication saw. -/
def result (s : Scenario) (o : Observation) : Verification.Result :=
  let problems := verdictProblems o.verdict ++ expectationProblems s.input o s.expectation
  { caseName := s.name
    entryPoint := s.input.entryPoint.name
    passed := problems.isEmpty
    expected := s.expectation.text
    actual := "reference=" ++ o.reference.outcome.text ++ " subject=" ++ o.subject.text
    diff := if problems.isEmpty then none else some (String.intercalate "\n" problems) }

variable {σ : Type}

/-- Verifies one scenario. -/
def verify (sides : Sides σ) (s : Scenario) : Check σ Verification.Result := do
  return s.result (← adjudicate sides s.input)

/-- Verifies scenarios in order, up to the first fault. -/
def verifyEach (sides : Sides σ) : List Scenario → Check σ (List Verification.Result)
  | [] => return []
  | s :: rest => do
    let result ← s.verify sides
    let results ← verifyEach sides rest
    return result :: results

/-- Verifies a table of scenarios. -/
def verifyAll (sides : Sides σ) (table : List Scenario) : Check σ Verification.Summary := do
  return .ofResults (← verifyEach sides table)

end Scenario

end FormatConformance
