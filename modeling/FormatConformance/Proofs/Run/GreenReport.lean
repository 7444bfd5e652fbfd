import FormatConformance.Proofs.Run.Accounting

/-!
# When a report is green

A report says that everything passed by way of three counts: the status of every property, the
number of fixed cases that failed, and whether the summary of those is there at all. The main result
is `Runner.report_allPassed_iff`: behind every report stand the runs of its properties
(`Runner.Ran`) and the rows of its table (`Runner.Reported`), and it is green exactly when no check
among them found a mismatch, no property ran out of its budget and no row failed.
-/

namespace FormatConformance.Run

variable {σ : Type}

/-! ## When a property passes

A status alone says little. Read off the accounts, a property passes when no check found a mismatch
and the discards stayed within the budget. -/

/-- More cases were discarded than the budget allows before any mismatch was found. -/
def RanOut (cases : UInt32) (checks : List Checked) : Prop :=
  ∃ before later, checks = before ++ later ∧ NoMismatch before ∧
    rejectBudget cases < discards before

/-- A property passes when its checks found nothing and did not discard too much. -/
theorem Accounted.isPass_iff {cases : UInt32} {checks : List Checked} {result : PropertyResult}
    (h : Accounted cases checks result) :
    result.isPass = true ↔ NoMismatch checks ∧ ¬RanOut cases checks := by
  cases h with
  | pass status clean _ _ _ budget =>
    refine iff_of_true (by simp [PropertyResult.isPass, status]) ⟨clean, ?_⟩
    rintro ⟨before, later, rfl, -, out⟩
    -- More discards than the budget would be more than what was counted.
    rw [discards_append] at budget
    omega
  | fail before found later status split _ verdict =>
    refine iff_of_false (by simp [PropertyResult.isPass, status]) ?_
    rintro ⟨clean, -⟩
    have none_found : found.verdict.mismatch? = none := clean found (by simp [split])
    rw [verdict] at none_found
    cases none_found
  | abort status clean _ _ _ exhausted =>
    refine iff_of_false (by simp [PropertyResult.isPass, status]) ?_
    rintro ⟨-, within⟩
    -- All checks together have run out of the budget.
    exact within ⟨checks, [], (List.append_nil _).symm, clean, by omega⟩

/-- A property that passed saw every case agree that it wanted. -/
theorem Accounted.agreements_of_isPass {cases : UInt32} {checks : List Checked}
    {result : PropertyResult} (h : Accounted cases checks result) (passed : result.isPass = true) :
    agreements checks = cases.toNat ∧ result.passed.toNat = cases.toNat := by
  cases h with
  | pass _ _ agreed passed => exact ⟨agreed, passed⟩
  | fail _ _ _ status => simp [PropertyResult.isPass, status] at passed
  | abort status => simp [PropertyResult.isPass, status] at passed

/-! ## The runs of properties -/

/-- A property with what its run came to. -/
structure PropertyRun where
  property : Property
  checks : List Checked
  minimal : Option Mismatch
  result : PropertyResult

/-- A property was run from one state to another and gave its result, which names it and accounts
for its checks. -/
structure Runner.Ran (r : Runner σ) (before : σ) (run : PropertyRun) (after : σ) : Prop where
  gave : (r.runProperty run.property).run before = (.ok run.result, after)
  course : r.Course run.property before run.checks run.minimal run.result after
  accounted : Accounted r.circumstances.settings.cases run.checks run.result
  entryPoint : run.result.entryPoint = run.property.entry.name
  property : run.result.property = run.property.demand.name

/-- Results of properties are those of their runs, one after the other. -/
theorem Runner.ran_of_runProperties (r : Runner σ) {properties : List Property}
    {before after : σ} {results : List PropertyResult}
    (h : (r.runProperties properties).run before = (.ok results, after)) :
    ∃ runs, Chain r.Ran before runs after ∧ runs.map PropertyRun.property = properties ∧
      results = runs.map PropertyRun.result := by
  induction properties generalizing before results with
  | nil =>
    cases h
    exact ⟨[], .nil _, rfl, rfl⟩
  | cons p rest ih =>
    obtain ⟨result, middle, first, h⟩ := Check.ok_of_bind h
    obtain ⟨later, _, others, h⟩ := Check.ok_of_bind h
    cases h
    obtain ⟨runs, chain, rfl, rfl⟩ := ih others
    obtain ⟨checks, minimal, course, accounted, entryPoint, property, -⟩ :=
      r.course_of_runProperty p first
    exact ⟨⟨p, checks, minimal, result⟩ :: runs,
      .cons ⟨first, course, accounted, entryPoint, property⟩ chain, rfl, rfl⟩

/-- How a property is named in its result. -/
def nameOf (p : Property) : String × String :=
  (p.entry.name, p.demand.name)

/-- Results name the properties that were run, in order. -/
theorem names_of_ran {r : Runner σ} {before after : σ} {runs : List PropertyRun}
    (h : Chain r.Ran before runs after) :
    ((runs.map PropertyRun.result).map fun result => (result.entryPoint, result.property)) =
      (runs.map PropertyRun.property).map nameOf := by
  have named : ∀ run ∈ runs, (run.result.entryPoint, run.result.property) = nameOf run.property :=
    h.forall_mem fun _ _ _ ran => Prod.ext ran.entryPoint ran.property
  rw [List.map_map, List.map_map]
  exact List.map_congr_left named

/-- Both demands on each entry point, in order. -/
theorem names_of_ofEntries (entries : List EntryPoint) :
    (Property.ofEntries entries).map nameOf = entries.flatMap fun entry =>
      [(entry.name, "differential"), (entry.name, "idempotence")] := by
  rw [Property.ofEntries, List.map_flatMap]
  rfl

/-! ## The rows of a table

The table is verified row by row. The summary counts the rows that passed in words, so the number of
rows must be one that a word can hold. -/

/-- A scenario was verified from one state of the sides to another, with this row as the result. -/
def Verified (sides : Sides σ) (s : σ) (row : Scenario × Verification.Result) (t : σ) : Prop :=
  (row.1.verify sides).run s = (.ok row.2, t)

/-- Verifying a table is verifying its scenarios one after the other. -/
theorem verified_of_verifyEach (sides : Sides σ) {table : List Scenario} {s t : σ}
    {results : List Verification.Result}
    (h : (Scenario.verifyEach sides table).run s = (.ok results, t)) :
    ∃ rows, Chain (Verified sides) s rows t ∧ rows.map Prod.fst = table ∧
      results = rows.map Prod.snd := by
  induction table generalizing s results with
  | nil =>
    cases h
    exact ⟨[], .nil _, rfl, rfl⟩
  | cons scenario rest ih =>
    obtain ⟨result, u, first, h⟩ := Check.ok_of_bind h
    obtain ⟨later, _, others, h⟩ := Check.ok_of_bind h
    cases h
    obtain ⟨rows, chain, rfl, rfl⟩ := ih others
    exact ⟨(scenario, result) :: rows, .cons first chain, rfl, rfl⟩

/-- The number of failed rows is zero only when there are none, as long as 64 bits can count the
rows. -/
theorem allPassed_ofResults {results : List Verification.Result}
    (counted : results.length < UInt64.size) :
    (Verification.Summary.ofResults results).allPassed = true ↔
      ∀ row ∈ results, row.passed = true := by
  -- No more rows pass than there are, so the difference is no less than it seems.
  have fewer : (results.filter Verification.Result.passed).length ≤ results.length :=
    List.length_filter_le ..
  have small : results.length - (results.filter Verification.Result.passed).length <
      UInt64.size := by
    omega
  have failed_zero : (Verification.Summary.ofResults results).allPassed = true ↔
      results.length - (results.filter Verification.Result.passed).length = 0 := by
    rw [Verification.Summary.allPassed, decide_eq_true_iff, ← UInt64.toNat_inj]
    show (UInt64.ofNat _).toNat = 0 ↔ _
    rw [UInt64.toNat_ofNat_of_lt' small]
  rw [failed_zero, ← List.length_filter_eq_length_iff]
  omega

/-! ## Reports -/

/-- What stands behind a report: the time of day, then the runs of both properties of each entry
point in order, and then the rows of the table in order. -/
structure Runner.Reported (r : Runner σ) (entries : List EntryPoint) (table : List Scenario)
    (before : σ) (runs : List PropertyRun) (rows : List (Scenario × Verification.Result))
    (report : Report) (after : σ) : Prop where
  course : ∃ now start middle, r.clock.wall.run before = (now, start) ∧
    report.timestamp = now.timestamp ∧ Chain r.Ran start runs middle ∧
    Chain (Verified r.sides) middle rows after
  properties : runs.map PropertyRun.property = Property.ofEntries entries
  results : report.properties = runs.map PropertyRun.result
  table : rows.map Prod.fst = table
  summary : report.scenarios = some (.ofResults (rows.map Prod.snd))

namespace Runner

variable (r : Runner σ)

/-- Every report has its runs and its rows behind it. -/
theorem reported_of_report {title reference : String} {entries : List EntryPoint}
    {table : List Scenario} {before after : σ} {report : Report}
    (h : (r.report title reference entries table).run before = (.ok report, after)) :
    ∃ runs rows, r.Reported entries table before runs rows report after := by
  obtain ⟨now, start, read, h⟩ := Check.ok_of_bind h
  obtain ⟨results, middle, ran, h⟩ := Check.ok_of_bind h
  obtain ⟨summary, _, verified, h⟩ := Check.ok_of_bind h
  cases h
  cases read
  obtain ⟨runs, chain, properties, rfl⟩ := r.ran_of_runProperties ran
  obtain ⟨_, _, each, last⟩ := Check.ok_of_bind verified
  cases last
  obtain ⟨rows, rowChain, rowTable, rfl⟩ := verified_of_verifyEach r.sides each
  exact ⟨runs, rows, ⟨_, _, middle, rfl, rfl, chain, rowChain⟩, properties, rfl, rowTable, rfl⟩

/-- A report is green exactly when nothing was found: no check of any property found a mismatch, no
property ran out of its budget, and every row of the table passed. Then every property saw as many
cases agree as it wanted. No table in memory has as many rows as 64 bits can count. -/
theorem report_allPassed_iff {title reference : String} {entries : List EntryPoint}
    {table : List Scenario} {before after : σ} {report : Report}
    (counted : table.length < UInt64.size)
    (h : (r.report title reference entries table).run before = (.ok report, after)) :
    ∃ runs rows, r.Reported entries table before runs rows report after ∧
      (report.properties.map fun result => (result.entryPoint, result.property)) =
        entries.flatMap (fun entry =>
          [(entry.name, "differential"), (entry.name, "idempotence")]) ∧
      (report.allPassed = true ↔
        (∀ run ∈ runs, NoMismatch run.checks) ∧
        (∀ run ∈ runs, ¬RanOut r.circumstances.settings.cases run.checks) ∧
        ∀ row ∈ rows, row.2.passed = true) ∧
      (report.allPassed = true → ∀ run ∈ runs,
        agreements run.checks = r.circumstances.settings.cases.toNat ∧
        run.result.passed.toNat = r.circumstances.settings.cases.toNat) := by
  obtain ⟨runs, rows, reported⟩ := r.reported_of_report h
  obtain ⟨_, _, middle, -, -, chain, -⟩ := reported.course
  have accounted : ∀ run ∈ runs, Accounted r.circumstances.settings.cases run.checks run.result :=
    chain.forall_mem fun _ _ _ ran => ran.accounted
  -- A report is green when all its rows are, and each row has been accounted for.
  have green : report.allPassed = true ↔
      (∀ run ∈ runs, run.result.isPass = true) ∧ ∀ row ∈ rows, row.2.passed = true := by
    have few : (rows.map Prod.snd).length < UInt64.size := by
      rw [List.length_map, ← List.length_map (f := Prod.fst), reported.table]
      exact counted
    rw [Report.allPassed, reported.results, reported.summary, Bool.and_eq_true, List.all_eq_true,
      List.forall_mem_map, Option.all_some, allPassed_ofResults few, List.forall_mem_map]
  refine ⟨runs, rows, reported, ?_, ?_, ?_⟩
  · rw [reported.results, names_of_ran chain, reported.properties]
    exact names_of_ofEntries entries
  · rw [green]
    constructor
    · rintro ⟨passed, rowsPassed⟩
      have fine : ∀ run ∈ runs, NoMismatch run.checks ∧
          ¬RanOut r.circumstances.settings.cases run.checks :=
        fun run mem => (accounted run mem).isPass_iff.1 (passed run mem)
      exact ⟨fun run mem => (fine run mem).1, fun run mem => (fine run mem).2, rowsPassed⟩
    · rintro ⟨clean, within, rowsPassed⟩
      exact ⟨fun run mem => (accounted run mem).isPass_iff.2 ⟨clean run mem, within run mem⟩,
        rowsPassed⟩
  · intro all_passed run mem
    exact (accounted run mem).agreements_of_isPass ((green.1 all_passed).1 run mem)

/-- Two cases are wanted of each property, and both sides render every case alike. -/
def alikeRunner : Runner Scripted.Counters :=
  scriptedRunner 2 ⟨.gives (.success [0x61]), []⟩ ⟨.gives (.success [0x61]), []⟩

theorem report_allPassed_alike :
    ∃ report after,
      (alikeRunner.report "" "" [.nothing] [⟨.ofTemplate "", .renders "a"⟩]).run .zero =
        (.ok report, after) ∧
      report.allPassed = true ∧
      ∃ runs rows,
        alikeRunner.Reported [.nothing] [⟨.ofTemplate "", .renders "a"⟩] .zero runs rows
          report after ∧
        ∀ run ∈ runs, agreements run.checks = 2 := by
  have seen : ((alikeRunner.report "" "" [.nothing] [⟨.ofTemplate "", .renders "a"⟩]).run
      .zero).1.toOption.map Report.allPassed = some true := by
    decide +kernel
  rcases ran : (alikeRunner.report "" "" [.nothing] [⟨.ofTemplate "", .renders "a"⟩]).run
    .zero with ⟨fault | report, after⟩
  · rw [ran] at seen
    cases seen
  · rw [ran] at seen
    have green : report.allPassed = true := Option.some.inj seen
    obtain ⟨runs, rows, reported, -, -, agreed⟩ :=
      alikeRunner.report_allPassed_iff (by decide) ran
    exact ⟨report, after, rfl, green, runs, rows, reported,
      fun run mem => (agreed green run mem).1⟩

end Runner

end FormatConformance.Run
