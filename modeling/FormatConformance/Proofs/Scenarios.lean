import FormatConformance.Proofs.Adjudication
import FormatConformance.Scenario
import FormatConformance.Scripted.Sides

/-!
# Rows of a table

A row passes when nobody complains, and the complaints come from two places that do not know of each
other: the verdict, and a look at the outcomes. `Met` says of the answers of the sides alone what an
expectation asks for, and a row passes exactly when it is met (`Row.Exact`).

The run of a table is told by its history, as that of an adjudication is. `Tabled` lists the two
courses that it can take: through all rows in their order, or up to the first fault, with no call
behind it. `verifyAll_exact` says that every run takes one of them.
-/

namespace FormatConformance

variable {σ ρ : Type}

/-! ## Agreement and its evidence -/

namespace Adjudicated

variable {c : Case} {history : List Exchange} {o : Observation}

/-- Agreement is that of two rejections or that of two rendered payloads, and no divergence covers
it. -/
theorem evidence_of_agree (h : Adjudicated c history (.ok o)) (agreed : o.verdict = .agree) :
    CarveOut.find? o.reference = none ∧
      ((o.reference.outcome.isFailure = true ∧ o.subject = probeRejected ∧
          .probed c (.ok true) ∈ history) ∨
        ∃ expected actual, o.reference.outcome = .success expected ∧
          o.subject = .success actual) := by
  cases h with
  | bothReject uncovered failed =>
    refine ⟨uncovered, .inl ⟨?_, rfl, by simp⟩⟩
    simp [failed, Outcome.isFailure, Outcome.isSuccess]
  | bothRender uncovered rendered _ =>
    exact ⟨uncovered, .inr ⟨_, _, rendered, rfl⟩⟩
  -- In every other history the verdict is another one.
  | _ => cases agreed

theorem agree_of_probed (h : Adjudicated c history (.ok o))
    (probed : .probed c (.ok true) ∈ history) : o.verdict = .agree := by
  cases h with
  | bothReject => rfl
  | bothRender => rfl
  | _ => simp at probed

theorem agree_of_equivalent (h : Adjudicated c history (.ok o)) {expected actual : Bytes}
    (reference : o.reference.outcome = .success expected) (subject : o.subject = .success actual)
    (equivalent : Payload.equivalent c expected actual = true) : o.verdict = .agree := by
  cases h with
  | bothReject => rfl
  | bothRender => rfl
  | covered found => cases subject
  | accepts _ failed =>
    rw [failed] at reference
    cases reference
  | rejects => cases subject
  | differ _ rendered different =>
    rw [rendered] at reference
    cases reference
    cases subject
    -- The payloads were told apart, so they are not equivalent.
    rw [different] at equivalent
    cases equivalent

/-- A divergence that covers the answer of the reference is all that the verdict says. -/
theorem verdict_of_covered (h : Adjudicated c history (.ok o)) {carveOut : CarveOut}
    (found : CarveOut.find? o.reference = some carveOut) : o.verdict = .discard carveOut := by
  cases h with
  | covered same =>
    cases same.symm.trans found
    rfl
  | _ uncovered =>
    rw [uncovered] at found
    cases found

end Adjudicated

namespace Scenario

/-! ## Complaints

A result has a list of problems, and it passed when there is none. Each problem is one condition
that does not hold. -/

theorem complaint_eq_nil_iff {holds : Bool} {text : String} :
    complaint holds text = [] ↔ holds = true := by
  cases holds <;> simp [complaint]

theorem verdictProblems_eq_nil_iff {verdict : Verdict} :
    verdictProblems verdict = [] ↔ verdict = .agree := by
  cases verdict <;> simp [verdictProblems]

theorem rendersText_iff {c : Case} {text : String} {outcome : Outcome} :
    rendersText c text outcome = true ↔ ∃ payload, outcome = .success payload ∧
      Payload.normalized c payload = Payload.normalized c (Text.bytesOf text) := by
  cases outcome <;> simp [rendersText]

theorem passed_result_iff {s : Scenario} {o : Observation} :
    (s.result o).passed = true ↔
      o.verdict = .agree ∧ expectationProblems s.input o s.expectation = [] := by
  rw [result, List.isEmpty_iff, List.append_eq_nil_iff, verdictProblems_eq_nil_iff]

theorem diff_result_isSome (s : Scenario) (o : Observation) :
    (s.result o).diff.isSome = !(s.result o).passed := by
  simp only [result]
  split <;> simp_all

/-! ## Expectations -/

/-- What the sides have answered when an expectation is met. -/
inductive Met (c : Case) (history : List Exchange) (o : Observation) : Expectation → Prop
  /-- The reference and the subject rendered the text, as payloads are compared for the case. -/
  | renders {text : String} {expected actual : Bytes}
    (reference : o.reference.outcome = .success expected) (subject : o.subject = .success actual)
    (same : Payload.normalized c expected = Payload.normalized c (Text.bytesOf text))
    (same' : Payload.normalized c actual = Payload.normalized c (Text.bytesOf text)) :
    Met c history o (.renders text)
  /-- The reference failed, no divergence covers it, and the probe reported a rejection. -/
  | rejected (failed : o.reference.outcome.isFailure = true)
    (uncovered : CarveOut.find? o.reference = none) (probed : .probed c (.ok true) ∈ history) :
    Met c history o .rejected
  | agreement (agreed : o.verdict = .agree) : Met c history o .agreement

/-- A row of a table: its scenario, the calls that were made for it, and what was seen. -/
structure Row where
  scenario : Scenario
  history : List Exchange
  observation : Observation

namespace Row

/-- The result of the row. -/
def result (r : Row) : Verification.Result :=
  r.scenario.result r.observation

/-- The calls are those of the protocol, and they show what was seen. -/
def Observed (r : Row) : Prop :=
  Adjudicated r.scenario.input r.history (.ok r.observation)

/-- The result of a row says what the row deserves. -/
structure Exact (r : Row) : Prop where
  passed_iff : r.result.passed = true ↔
    Met r.scenario.input r.history r.observation r.scenario.expectation
  agrees : r.result.passed = true → r.observation.verdict = .agree
  covered : ∀ carveOut, CarveOut.find? r.observation.reference = some carveOut →
    r.result.passed = false
  shown_iff : r.result.diff.isSome = true ↔ r.result.passed = false

variable {r : Row}

theorem agree_of_passed (passed : r.result.passed = true) : r.observation.verdict = .agree :=
  (passed_result_iff.1 passed).1

theorem met_of_passed (observed : r.Observed) (passed : r.result.passed = true) :
    Met r.scenario.input r.history r.observation r.scenario.expectation := by
  obtain ⟨agreed, fulfilled⟩ := passed_result_iff.1 passed
  cases expected : r.scenario.expectation with
  | agreement => exact .agreement agreed
  | renders text =>
    rw [expected, expectationProblems, List.append_eq_nil_iff, complaint_eq_nil_iff,
      complaint_eq_nil_iff, rendersText_iff, rendersText_iff] at fulfilled
    obtain ⟨⟨a, reference, same⟩, b, subject, same'⟩ := fulfilled
    exact .renders reference subject same same'
  | rejected =>
    rw [expected, expectationProblems, List.append_eq_nil_iff, complaint_eq_nil_iff,
      complaint_eq_nil_iff] at fulfilled
    obtain ⟨failed, -⟩ := fulfilled
    obtain ⟨uncovered, evidence⟩ := observed.evidence_of_agree agreed
    -- With a failed reference the agreement can only come from the probe.
    rcases evidence with ⟨-, -, probed⟩ | ⟨_, _, rendered, -⟩
    · exact .rejected failed uncovered probed
    · rw [rendered] at failed
      cases failed

theorem passed_of_met (observed : r.Observed)
    (met : Met r.scenario.input r.history r.observation r.scenario.expectation) :
    r.result.passed = true := by
  refine passed_result_iff.2 ?_
  generalize r.scenario.expectation = expectation at met
  cases met with
  | agreement agreed => exact ⟨agreed, rfl⟩
  | @renders text _ _ reference subject same same' =>
    -- Both payloads are folded to the same text.
    have equivalent : Payload.equivalent r.scenario.input _ _ = true :=
      decide_eq_true (same.trans same'.symm)
    have both : rendersText r.scenario.input text r.observation.reference.outcome = true ∧
        rendersText r.scenario.input text r.observation.subject = true :=
      ⟨rendersText_iff.2 ⟨_, reference, same⟩, rendersText_iff.2 ⟨_, subject, same'⟩⟩
    refine ⟨observed.agree_of_equivalent reference subject equivalent, ?_⟩
    rw [expectationProblems, complaint_eq_nil_iff.2 both.1, complaint_eq_nil_iff.2 both.2]
    rfl
  | rejected failed _ probed =>
    have agreed := observed.agree_of_probed probed
    refine ⟨agreed, ?_⟩
    -- Behind the probe the subject is not asked, and its place is taken by a rejection.
    have refused : r.observation.subject.isFailure = true := by
      rcases (observed.evidence_of_agree agreed).2 with ⟨-, same, -⟩ | ⟨_, _, rendered, -⟩
      · rw [same]
        rfl
      · rw [rendered] at failed
        cases failed
    rw [expectationProblems, complaint_eq_nil_iff.2 failed, complaint_eq_nil_iff.2 refused]
    rfl

/-- A row that was seen in this way has the result that it deserves. -/
theorem Observed.exact (observed : r.Observed) : r.Exact where
  passed_iff := ⟨met_of_passed observed, passed_of_met observed⟩
  agrees := agree_of_passed
  covered carveOut found := by
    refine Bool.eq_false_iff.2 fun passed => ?_
    have agreed := agree_of_passed passed
    rw [observed.verdict_of_covered found] at agreed
    cases agreed
  shown_iff := by
    rw [result, diff_result_isSome, Bool.not_eq_true']

end Row

/-! ## The course of a table

The rows are checked in their order until one of them faults. What was called on the way is the
histories of the rows one after the other. -/

/-- The ways in which one scenario can come out. -/
inductive Tried (s : Scenario) : List Exchange → Except Fault Verification.Result → Prop
  | seen {history : List Exchange} {o : Observation} (observed : (Row.mk s history o).Observed) :
    Tried s history (.ok (s.result o))
  | fault {history : List Exchange} {fault : Fault}
    (ended : Adjudicated s.input history (.error fault)) : Tried s history (.error fault)

theorem transcribes_verify (add : Exchange → ρ → ρ) (sides : Sides σ) (s : Scenario) :
    Transcribes add (s.verify (sides.recorded add)) (s.verify sides) s.Tried :=
  (transcribes_adjudicate add sides s.input).map _ (fun _ _ ended => .fault ended)
    fun _ _ observed => .seen observed

/-- The ways in which a table can come out: every row was seen, or the rows up to one that ended in
a fault. The history holds the calls of these rows and no others. -/
inductive Tabled : List Scenario → List Exchange → Except Fault (List Verification.Result) → Prop
  | seen (rows : List Row) (observed : ∀ row ∈ rows, row.Observed) :
    Tabled (rows.map Row.scenario) (rows.flatMap Row.history) (.ok (rows.map Row.result))
  | fault (rows : List Row) (observed : ∀ row ∈ rows, row.Observed) {s : Scenario}
    {last : List Exchange} {fault : Fault} (ended : Adjudicated s.input last (.error fault))
    (later : List Scenario) :
    Tabled (rows.map Row.scenario ++ s :: later) (rows.flatMap Row.history ++ last) (.error fault)

namespace Tabled

variable {table : List Scenario} {history : List Exchange} {row : Row}

theorem cons_ok {results : List Verification.Result} (first : row.Observed)
    (tabled : Tabled table history (.ok results)) :
    Tabled (row.scenario :: table) (row.history ++ history) (.ok (row.result :: results)) := by
  cases tabled with
  | seen rows observed => exact .seen (row :: rows) (List.forall_mem_cons.2 ⟨first, observed⟩)

theorem cons_error {fault : Fault} (first : row.Observed)
    (tabled : Tabled table history (.error fault)) :
    Tabled (row.scenario :: table) (row.history ++ history) (.error fault) := by
  cases tabled with
  | fault rows observed ended later =>
    rw [← List.append_assoc]
    exact .fault (row :: rows) (List.forall_mem_cons.2 ⟨first, observed⟩) ended later

end Tabled

/-- The run lemma: row after row, up to the first fault. -/
theorem transcribes_verifyEach (add : Exchange → ρ → ρ) (sides : Sides σ)
    (table : List Scenario) :
    Transcribes add (verifyEach (sides.recorded add) table) (verifyEach sides table)
      (Tabled table) := by
  induction table with
  | nil =>
    have nothing := Tabled.seen [] (by simp)
    exact .pure nothing
  -- A fault ends the table at this row, and else the rows behind it follow.
  | cons s rest ih =>
    refine (transcribes_verify add sides s).bind ?_ ?_
    · intro history fault tried
      cases tried with
      | fault ended =>
        have halted := Tabled.fault [] (by simp) ended rest
        exact halted
    · intro history result tried
      cases tried with
      | @seen o observed =>
        exact ih.map _ (fun later fault tabled => tabled.cons_error observed)
          fun later results tabled => tabled.cons_ok observed

/-! ## The summary -/

/-- The summary of some rows: their results in order, and how many there are of each kind. -/
structure Accounts (rows : List Row) (summary : Verification.Summary) : Prop where
  results : summary.results = rows.map Row.result
  total : summary.total.toNat = rows.length
  parts : summary.passed.toNat + summary.failed.toNat = rows.length
  passed : summary.passed.toNat = rows.countP fun row => row.result.passed

/-- The counts are right as long as 64 bits can hold them. -/
theorem accounts_ofResults {rows : List Row} (counted : rows.length < UInt64.size) :
    Accounts rows (.ofResults (rows.map Row.result)) := by
  have passed : ((rows.map Row.result).filter Verification.Result.passed).length =
      rows.countP fun row => row.result.passed := by
    rw [← List.countP_eq_length_filter, List.countP_map]
    rfl
  have fewer : (rows.countP fun row => row.result.passed) ≤ rows.length := List.countP_le_length
  -- The counts are words, and none of them is beyond the number of rows.
  have small : ∀ n ≤ rows.length, (UInt64.ofNat n).toNat = n := fun n le =>
    UInt64.toNat_ofNat_of_lt' (Nat.lt_of_le_of_lt le counted)
  simp only [Verification.Summary.ofResults, passed, List.length_map]
  refine ⟨rfl, small _ (Nat.le_refl _), ?_, small _ fewer⟩
  rw [small _ fewer, small _ (Nat.sub_le ..)]
  omega

/-- Every scenario comes out with a row that is exactly what the answers of the sides deserve, or
with the fault of its adjudication. A table comes out with one row for each scenario in order, and
with counts that add up, or with the fault of the first scenario that has one; then no call is made
for the scenarios behind it. No table in memory has as many rows as 64 bits can count. -/
theorem verifyAll_exact (sides : Sides σ) :
    (∀ s before, ∃ history result after,
      (verify sides s).run before = (result, after) ∧
      (∀ earlier, (verify sides.transcribed s).run ⟨before, earlier⟩ =
        (result, ⟨after, earlier ++ history⟩)) ∧
      ((∃ o, (Row.mk s history o).Observed ∧ (Row.mk s history o).Exact ∧
          result = .ok (s.result o)) ∨
        ∃ fault, Adjudicated s.input history (.error fault) ∧ result = .error fault)) ∧
    ∀ table before, table.length < UInt64.size → ∃ history result after,
      (verifyAll sides table).run before = (result, after) ∧
      (∀ earlier, (verifyAll sides.transcribed table).run ⟨before, earlier⟩ =
        (result, ⟨after, earlier ++ history⟩)) ∧
      ((∃ (rows : List Row) (summary : Verification.Summary), rows.map Row.scenario = table ∧
          (∀ row ∈ rows, row.Observed ∧ row.Exact) ∧ history = rows.flatMap Row.history ∧
          result = .ok summary ∧ Accounts rows summary) ∨
        ∃ (rows : List Row) (s : Scenario) (later : List Scenario) (last : List Exchange)
          (fault : Fault), rows.map Row.scenario ++ s :: later = table ∧
          (∀ row ∈ rows, row.Observed) ∧ Adjudicated s.input last (.error fault) ∧
          history = rows.flatMap Row.history ++ last ∧ result = .error fault) := by
  constructor
  · intro s before
    obtain ⟨history, result, after, plain, recorded, tried⟩ :=
      transcribes_verify (fun made history => history ++ [made]) sides s before
    simp only [extended_transcribed] at recorded
    refine ⟨history, result, after, plain, recorded, ?_⟩
    cases tried with
    | seen observed => exact .inl ⟨_, observed, observed.exact, rfl⟩
    | fault ended => exact .inr ⟨_, ended, rfl⟩
  · intro table before counted
    obtain ⟨history, result, after, plain, recorded, tabled⟩ :=
      transcribes_verifyEach (fun made history => history ++ [made]) sides table before
    simp only [extended_transcribed] at recorded
    cases tabled with
    | seen rows observed =>
      have accounts : Accounts rows (.ofResults (rows.map Row.result)) := by
        rw [List.length_map] at counted
        exact accounts_ofResults counted
      exact ⟨_, _, after, Check.run_bind_of_ok plain,
        fun earlier => Check.run_bind_of_ok (recorded earlier),
        .inl ⟨rows, _, rfl, fun row mem => ⟨observed row mem, (observed row mem).exact⟩, rfl, rfl,
          accounts⟩⟩
    | fault rows observed ended later =>
      exact ⟨_, _, after, Check.run_bind_of_error plain,
        fun earlier => Check.run_bind_of_error (recorded earlier),
        .inr ⟨rows, _, later, _, _, rfl, observed, ended, rfl, rfl⟩⟩

/-- A number that is none, spelled in three ways, and a rejection that a divergence covers. -/
def mixedTable : List Scenario :=
  [⟨⟨"", "", "", .double 0x7ff8000000000000⟩, .renders "nAn"⟩,
    ⟨.ofTemplate "\x7b\x7d\x7b0\x7d", .rejected⟩]

/-- The sides that answer the two. -/
def mixedSides : Sides Scripted.Counters :=
  Scripted.sides
    (.script ⟨.gives (.success (Text.bytesOf "nan")),
      [.gives (.failure .unexpected "cannot switch from automatic field numbering")]⟩)
    (.scripted (.script ⟨.gives (.success (Text.bytesOf "NaN")), []⟩) none)

theorem verifyAll_exact_mixed :
    mixedTable.length < UInt64.size ∧
      ∃ (rows : List Row) (summary : Verification.Summary) (after : Scripted.Counters),
        (verifyAll mixedSides mixedTable).run .zero = (.ok summary, after) ∧
        rows.map Row.scenario = mixedTable ∧ (∀ row ∈ rows, row.Exact) ∧
        Accounts rows summary ∧ summary.passed = 1 ∧ summary.failed = 1 := by
  have seen : ((verifyAll mixedSides mixedTable).run .zero).1.toOption.map
      (fun summary => (summary.passed, summary.failed)) = some (1, 1) := by
    decide +kernel
  refine ⟨by decide, ?_⟩
  obtain ⟨-, tables⟩ := verifyAll_exact mixedSides
  obtain ⟨_, _, after, plain, -, ⟨rows, summary, table, observed, -, rfl, accounts⟩ |
    ⟨_, _, _, _, _, -, -, -, -, rfl⟩⟩ := tables mixedTable .zero (by decide)
  · rw [plain] at seen
    obtain ⟨passed, failed⟩ := Prod.mk.inj (Option.some.inj seen)
    exact ⟨rows, summary, after, plain, table, fun row mem => (observed row mem).2, accounts,
      passed, failed⟩
  · rw [plain] at seen
    cases seen

end Scenario

end FormatConformance
