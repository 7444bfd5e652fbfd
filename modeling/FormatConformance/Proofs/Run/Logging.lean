import FormatConformance.Proofs.Adjudication
import FormatConformance.Proofs.Log.Lines
import FormatConformance.Proofs.Run.Accounting

/-!
# The log of a property

A run keeps two records: the result, which is made from the tally, and the log, which is written as
things happen. This file shows of any runner with a log attached (`Runner.logged`) that the records
agree. The step lemmas are `Runner.log_of_note` and `Runner.log_of_check`: what noting an event and
making a check add to the log, which no call to a side touches. Along the chain of checks they give
one line for each check, and since the result accounts for the same checks (`Accounted`), the lines
tell its counts and its first mismatch (`Recounts`).
-/

namespace FormatConformance

variable {σ ρ : Type}

/-! ## The case and the outcomes of a mismatch

The line of a check has the case and the outcomes that the check observed, and the result of a
property has those of a mismatch. That they are the same is a fact about adjudication.
-/

/-- The mismatch of a check is about the case and the outcomes of the check. -/
def Faithful (k : Checked) : Prop :=
  ∀ m, k.verdict = .mismatch m → m.input = k.input ∧ m.reference = k.left ∧ m.subject = k.right

theorem faithful_of_adjudicated {c : Case} {history : List Exchange} {o : Observation}
    (h : Adjudicated c history (.ok o)) :
    Faithful ⟨c, o.reference.outcome, o.subject, o.verdict⟩ := by
  intro m found
  cases h <;> cases found <;> exact ⟨rfl, rfl, rfl⟩

theorem faithful_of_repeated {c : Case} {history : List Exchange} {rerun : Rerun}
    (h : Repeated c history (.ok rerun)) :
    Faithful ⟨c, rerun.first, rerun.second, rerun.verdict⟩ := by
  intro m found
  cases h with
  | both first second =>
    by_cases same : sameAnswer first second
    · simp only [if_pos same, Verdict.of] at found
      cases found
    · -- The two answers are the outcomes of the mismatch, the first in place of the reference.
      simp only [if_neg same, Verdict.of] at found
      cases found
      exact ⟨rfl, rfl, rfl⟩

/-- Whatever was exchanged, the check that came of it is faithful. -/
inductive ChecksFaithfully : List Exchange → Except Fault Checked → Prop
  | fault (history : List Exchange) (fault : Fault) : ChecksFaithfully history (.error fault)
  | checked (history : List Exchange) {k : Checked} (faithful : Faithful k) :
    ChecksFaithfully history (.ok k)

/-- Whatever the record, a check beside it is the same check. -/
theorem transcribes_propertyCheck (add : Exchange → ρ → ρ) (sides : Sides σ) (demand : Demand)
    (c : Case) :
    Transcribes add (Property.check (sides.recorded add) demand c) (Property.check sides demand c)
      ChecksFaithfully := by
  cases demand with
  | differential =>
    exact (transcribes_adjudicate add sides c).map _ (fun history fault _ => .fault history fault)
      fun history o adjudicated => .checked history (faithful_of_adjudicated adjudicated)
  | idempotence =>
    exact (transcribes_checkIdempotent add sides c).map _
      (fun history fault _ => .fault history fault)
      fun history rerun repeated => .checked history (faithful_of_repeated repeated)

namespace Run

/-! ## What the lines say

The words of the lines are stated here for each verdict and for each status. The words that the
program has for them are met in `caseLine_named` and `endLine_named` and nowhere else. -/

/-- What every line of a property says: a time that the clock read, how much it matters, what
happened, and the names of the property. -/
structure Heading (clock : Clock σ) (p : Property) (level : Log.Level) (event : String)
    (e : Log.Entry) : Prop where
  timestamp : ∃ s, e.timestamp = (clock.wall.run s).1.timestamp
  level : e.level = level
  event : e.event = event
  entryPoint : e.entryPoint = some p.entry.name
  property : e.property = some p.demand.name

/-- The line with which a property starts. -/
structure StartLine (r : Runner σ) (p : Property) (e : Log.Entry) : Prop where
  heading : Heading r.clock p .info "property_start" e
  details : e.details = some (.object
    [("cases", .nat r.circumstances.settings.cases.toNat),
      ("seed", .string r.circumstances.seed.text)])
  nothing_else : e.outcome = none ∧ e.input = none ∧ e.reference = none ∧ e.subject = none ∧
    e.duration = none

/-- The line of a check. -/
structure CaseLine (r : Runner σ) (p : Property) (e : Log.Entry) (k : Checked) : Prop where
  heading : Heading r.clock p .trace "case" e
  agree : k.verdict = .agree → e.outcome = some .pass
  discard : ∀ carveOut, k.verdict = .discard carveOut → e.outcome = some .discard
  mismatch : ∀ m, k.verdict = .mismatch m → e.outcome = some .fail
  input : e.input = some k.input.record
  reference : e.reference = some k.left.record
  subject : e.subject = some k.right.record
  nothing_else : e.duration = none ∧ e.details = none

/-- The line with which a property ends. -/
structure EndLine (r : Runner σ) (p : Property) (result : PropertyResult)
    (e : Log.Entry) : Prop where
  heading : ∃ level, Heading r.clock p level "property_end" e
  pass : result.status = .pass → e.outcome = some .pass ∧ e.level = .info
  fail : result.status = .fail → e.outcome = some .fail ∧ e.level = .error
  abort : result.status = .abort → e.outcome = some .abort ∧ e.level = .error
  duration : e.duration = some result.duration
  details : e.details = some (.object
    [("abort_reason", .ofOption .string result.abortReason),
      ("discarded", .nat result.discarded.toNat), ("passed", .nat result.passed.toNat)])
  input : e.input = result.minimalFailure.map Mismatch.Record.input
  reference : e.reference = result.minimalFailure.map Mismatch.Record.reference
  subject : e.subject = result.minimalFailure.map Mismatch.Record.subject

section Lines

variable {r : Runner σ} {p : Property} {log : Log.Emitter} {s : σ}

theorem startLine_named :
    StartLine r p (log.named (startedEntry r.circumstances (r.clock.wall.run s).1 p)) where
  heading := ⟨⟨s, rfl⟩, rfl, rfl, rfl, rfl⟩
  details := rfl
  nothing_else := ⟨rfl, rfl, rfl, rfl, rfl⟩

theorem caseLine_named {k : Checked} :
    CaseLine r p (log.named (checkedEntry (r.clock.wall.run s).1 p k)) k where
  heading := ⟨⟨s, rfl⟩, rfl, rfl, rfl, rfl⟩
  agree verdict := by
    show some (statusOfVerdict k.verdict) = _
    rw [verdict, statusOfVerdict]
  discard carveOut verdict := by
    show some (statusOfVerdict k.verdict) = _
    rw [verdict, statusOfVerdict]
  mismatch m verdict := by
    show some (statusOfVerdict k.verdict) = _
    rw [verdict, statusOfVerdict]
  input := rfl
  reference := rfl
  subject := rfl
  nothing_else := ⟨rfl, rfl⟩

theorem endLine_named {result : PropertyResult} {minimal : Option Mismatch}
    (shown : result.minimalFailure = minimal.map Mismatch.record) :
    EndLine r p result (log.named (endedEntry (r.clock.wall.run s).1 p result minimal)) := by
  -- The fields of the minimal failure are those of its record in the result.
  have same {β : Type} (part : Mismatch.Record → β) :
      minimal.map (fun m => part m.record) = result.minimalFailure.map part := by
    rw [shown, Option.map_map]
    rfl
  have word {status : PropertyStatus} (is : result.status = status) :
      some (statusOfResult result.status) = some (statusOfResult status) ∧
        levelOfResult result.status = levelOfResult status := by
    rw [is]
    exact ⟨rfl, rfl⟩
  -- With a minimal failure or without one, the other fields are the same.
  cases minimal <;>
    exact ⟨⟨_, ⟨s, rfl⟩, rfl, rfl, rfl, rfl⟩, word, word, word, rfl, rfl,
      same Mismatch.Record.input, same Mismatch.Record.reference, same Mismatch.Record.subject⟩

theorem StartLine.sound {e : Log.Entry} (line : StartLine r p e) : e.Sound := by
  intro details mem
  rw [line.details] at mem
  cases mem
  have ordered : ["cases", "seed"].Pairwise fun k l => ¬l < k ∧ l ≠ k := by decide +kernel
  have fits : r.circumstances.settings.cases.toNat < 2 ^ 64 :=
    r.circumstances.settings.cases.toNat_lt.trans (by decide)
  refine Log.durable_object ordered ?_
  exact List.forall_mem_cons.2 ⟨.nat fits, List.forall_mem_singleton.2 (.string _)⟩

theorem CaseLine.sound {e : Log.Entry} {k : Checked} (line : CaseLine r p e k) : e.Sound := by
  intro details mem
  rw [line.nothing_else.2] at mem
  cases mem

theorem EndLine.sound {e : Log.Entry} {result : PropertyResult} (line : EndLine r p result e) :
    e.Sound := by
  intro details mem
  rw [line.details] at mem
  cases mem
  have ordered : ["abort_reason", "discarded", "passed"].Pairwise fun k l => ¬l < k ∧ l ≠ k := by
    decide +kernel
  refine Log.durable_object ordered ?_
  exact List.forall_mem_cons.2 ⟨.ofOption_string _, List.forall_mem_cons.2
    ⟨.nat result.discarded.toNat_lt, List.forall_mem_singleton.2 (.nat result.passed.toNat_lt)⟩⟩

/-- The outcome of a line in one word, whatever the verdict was. -/
theorem CaseLine.outcome {e : Log.Entry} {k : Checked} (line : CaseLine r p e k) :
    e.outcome = some (statusOfVerdict k.verdict) := by
  cases verdict : k.verdict with
  | agree => exact line.agree verdict
  | discard carveOut => exact line.discard carveOut verdict
  | mismatch m => exact line.mismatch m verdict

end Lines

/-! ## What a run adds to the log -/

/-- The log goes on with the lines of some entries. -/
def Continues (log : Log.Emitter) (entries : List Log.Entry) (later : Log.Emitter) : Prop :=
  later.lines = log.lines ++ entries.map Log.Entry.line

theorem Continues.append {log middle later : Log.Emitter} {xs ys : List Log.Entry}
    (first : Continues log xs middle) (second : Continues middle ys later) :
    Continues log (xs ++ ys) later := by
  rw [Continues, second, first, List.map_append, List.append_assoc]

theorem Continues.emit (log : Log.Emitter) (e : Log.Entry) :
    Continues log [log.named e] (log.emit e) :=
  log.lines_emit e

namespace Runner

variable (r : Runner σ) (flush : Log.Emitter → StateM σ (Except SystemFault Unit)) {p : Property}

/-- Writing an entry emits it, whatever becomes of the log behind it. -/
theorem log_of_write {e : Log.Entry} {s t : Recorded σ Log.Emitter}
    (h : ((r.logged flush).write e).run s = (.ok (), t)) : t.record = s.record.emit e := by
  have record : (((r.logged flush).write e).run s).2.record = s.record.emit e := rfl
  rw [h] at record
  exact record

/-- Reading the clock leaves the log as it is. -/
theorem log_of_ticks {s t : Recorded σ Log.Emitter} {read : Nat}
    (h : (r.logged flush).clock.ticks.run s = (read, t)) : t.record = s.record := by
  cases h
  rfl

/-- Noting an event emits what the log has to say of it at the time, and nothing else. -/
theorem log_of_note {e : Event} {s t : Recorded σ Log.Emitter}
    (h : ((r.logged flush).note e).run s = (.ok (), t)) :
    t.record = if e.isLogged r.circumstances.settings then
      s.record.emit (e.entry r.circumstances (r.clock.wall.run s.state).1) else s.record := by
  have same : (r.logged flush).circumstances = r.circumstances := rfl
  rw [note, same] at h
  split_ifs at h ⊢
  · obtain ⟨now, awake, read, written⟩ := Check.ok_of_bind h
    -- The clock is read beside the log, so nothing is emitted by then.
    have here : (r.clock.wall.run s.state).1 = now ∧ awake.record = s.record := by
      cases read
      exact ⟨rfl, rfl⟩
    rw [r.log_of_write flush written, here.1, here.2]
  · cases h
    rfl

/-- Making a check adds its line to a verbose log, and nothing to another one. -/
theorem log_of_check {c : Case} {s t : Recorded σ Log.Emitter} {k : Checked}
    (h : ((r.logged flush).check p c).run s = (.ok k, t)) :
    Faithful k ∧ ∃ u, t.record = if r.circumstances.settings.verbose then
      s.record.emit (checkedEntry (r.clock.wall.run u).1 p k) else s.record := by
  obtain ⟨middle, made, noted⟩ := (r.logged flush).made_of_check p h
  obtain ⟨history, result, u, -, recorded, faithful⟩ :=
    transcribes_propertyCheck (fun _ log => log) r.sides p.demand c s.state
  -- The sides of the runner with a log write nothing to it.
  have same : (Property.check (r.logged flush).sides p.demand c).run s =
      (result, ⟨u, extended (fun _ log => log) s.record history⟩) := recorded s.record
  rw [made, extended_fixed] at same
  obtain ⟨rfl, rfl⟩ := Prod.mk.inj same
  cases faithful with
  | checked faithful => exact ⟨faithful, u, r.log_of_note flush noted⟩

/-- The lines of a chain of checks. -/
theorem lines_of_checks {s t : Recorded σ Log.Emitter} {checks : List Checked}
    (h : (r.logged flush).Checks p s checks t) :
    (∀ k ∈ checks, Faithful k) ∧ ∃ cases, Continues s.record cases t.record ∧
      if r.circumstances.settings.verbose then List.Forall₂ (CaseLine r p) cases checks
      else cases = [] := by
  induction h with
  | nil s =>
    refine ⟨List.forall_mem_nil _, [], (List.append_nil _).symm, ?_⟩
    split_ifs
    · exact .nil
    · rfl
  | @cons s t u k checks step _ ih =>
    obtain ⟨faithful, cases, continued, told⟩ := ih
    obtain ⟨first_faithful, now, added⟩ := r.log_of_check flush step
    refine ⟨List.forall_mem_cons.2 ⟨first_faithful, faithful⟩, ?_⟩
    split_ifs at added told with verbose
    · -- One line for the check, and then the lines of those behind it.
      rw [added] at continued
      refine ⟨_, (Continues.emit s.record _).append continued, ?_⟩
      rw [if_pos verbose]
      exact .cons caseLine_named told
    · refine ⟨cases, ?_, ?_⟩
      · rwa [added] at continued
      · rwa [if_neg verbose]

end Runner

/-! ## What the lines of the checks tell

The lines and the checks go side by side, so a count over the checks is a count over the lines. -/

/-- How many lines have an outcome. -/
def howMany (status : Log.Status) (lines : List Log.Entry) : Nat :=
  lines.countP fun e => e.outcome = some status

/-- The lines of the checks tell what the result says: its counts, and where there is a first
failure the first line that failed, with its case and its outcomes. What is behind that line is not
counted. -/
inductive Recounts (result : PropertyResult) (lines : List Log.Entry) : Prop
  | pass (status : result.status = .pass) (passed : howMany .pass lines = result.passed.toNat)
      (discarded : howMany .discard lines = result.discarded.toNat)
      (no_fail : ∀ e ∈ lines, e.outcome ≠ some .fail)
  | fail (before : List Log.Entry) (found : Log.Entry) (later : List Log.Entry)
      (first : Mismatch.Record) (status : result.status = .fail)
      (split : lines = before ++ found :: later)
      (passed : howMany .pass before = result.passed.toNat)
      (discarded : howMany .discard before = result.discarded.toNat)
      (no_fail : ∀ e ∈ before, e.outcome ≠ some .fail) (failed : found.outcome = some .fail)
      (firstFailure : result.firstFailure = some first) (input : found.input = some first.input)
      (reference : found.reference = some first.reference)
      (subject : found.subject = some first.subject)
  | abort (status : result.status = .abort) (passed : howMany .pass lines = result.passed.toNat)
      (discarded : howMany .discard lines = result.discarded.toNat)
      (no_fail : ∀ e ∈ lines, e.outcome ≠ some .fail)

section Counting

variable {r : Runner σ} {p : Property} {lines : List Log.Entry} {checks : List Checked}

theorem outcomes_of_caseLines (told : List.Forall₂ (CaseLine r p) lines checks) :
    lines.map Log.Entry.outcome = checks.map fun k => some (statusOfVerdict k.verdict) := by
  induction told with
  | nil => rfl
  | cons line _ ih => rw [List.map_cons, List.map_cons, line.outcome, ih]

theorem sound_of_caseLines (told : List.Forall₂ (CaseLine r p) lines checks) :
    ∀ e ∈ lines, e.Sound := by
  induction told with
  | nil => exact List.forall_mem_nil _
  | cons line _ ih => exact List.forall_mem_cons.2 ⟨line.sound, ih⟩

/-- Every line of a property comes back as it is. -/
theorem sound_of_lines {start finish : Log.Entry} {result : PropertyResult}
    (first : StartLine r p start)
    (told : if r.circumstances.settings.verbose then List.Forall₂ (CaseLine r p) lines checks
      else lines = []) (last : EndLine r p result finish) :
    ∀ e ∈ start :: (lines ++ [finish]), e.Sound := by
  have between : ∀ e ∈ lines, e.Sound := by
    split_ifs at told
    · exact sound_of_caseLines told
    · rw [told]
      exact List.forall_mem_nil _
  exact List.forall_mem_cons.2 ⟨first.sound,
    List.forall_mem_append.2 ⟨between, List.forall_mem_singleton.2 last.sound⟩⟩

theorem howMany_eq_countP (told : List.Forall₂ (CaseLine r p) lines checks)
    (status : Log.Status) :
    howMany status lines = checks.countP fun k => statusOfVerdict k.verdict = status := by
  have onLines : howMany status lines =
      (lines.map Log.Entry.outcome).countP (· = some status) := by
    rw [List.countP_map]
    rfl
  rw [onLines, outcomes_of_caseLines told, List.countP_map]
  exact List.countP_congr fun k _ => by simp

theorem howMany_pass (told : List.Forall₂ (CaseLine r p) lines checks) :
    howMany .pass lines = agreements checks := by
  rw [howMany_eq_countP told, agreements]
  refine List.countP_congr fun k _ => ?_
  cases k.verdict <;> simp [statusOfVerdict]

theorem howMany_discard (told : List.Forall₂ (CaseLine r p) lines checks) :
    howMany .discard lines = discards checks := by
  rw [howMany_eq_countP told, discards]
  refine List.countP_congr fun k _ => ?_
  cases k.verdict <;> simp [statusOfVerdict, isDiscard]

theorem no_fail_of_noMismatch (told : List.Forall₂ (CaseLine r p) lines checks)
    (clean : NoMismatch checks) : ∀ e ∈ lines, e.outcome ≠ some .fail := by
  intro e mem failed
  have inside : some Log.Status.fail ∈ lines.map Log.Entry.outcome :=
    failed ▸ List.mem_map_of_mem mem
  rw [outcomes_of_caseLines told] at inside
  obtain ⟨k, checked, same⟩ := List.mem_map.1 inside
  have none : k.verdict.mismatch? = none := clean k checked
  cases verdict : k.verdict <;> simp [verdict, statusOfVerdict, Verdict.mismatch?] at same none

/-- When the result accounts for the checks, the lines of the checks tell what the result says. -/
theorem recounts_of_accounted {cases : UInt32} {result : PropertyResult}
    (accounted : Accounted cases checks result)
    (told : List.Forall₂ (CaseLine r p) lines checks) (faithful : ∀ k ∈ checks, Faithful k) :
    Recounts result lines := by
  cases accounted with
  | pass status clean agreed passed discarded =>
    refine .pass status ?_ ?_ (no_fail_of_noMismatch told clean)
    · rw [howMany_pass told, agreed, passed]
    · rw [howMany_discard told, discarded]
  | abort status clean passed _ discarded =>
    refine .abort status ?_ ?_ (no_fail_of_noMismatch told clean)
    · rw [howMany_pass told, passed]
    · rw [howMany_discard told, discarded]
  | @fail before found later first _ status split clean verdict passed _ discarded _ firstFailure =>
    subst split
    -- The lines are cut where the checks are, at the first mismatch.
    have told_before := List.forall₂_take_append _ _ _ told
    have told_behind := List.forall₂_drop_append _ _ _ told
    obtain ⟨line, rest, is_line, -, behind⟩ := List.forall₂_cons_right_iff.1 told_behind
    obtain ⟨input, reference, subject⟩ := faithful found (by simp) first verdict
    refine .fail _ line rest first.record status ?_ ?_ ?_
      (no_fail_of_noMismatch told_before clean) ?_ firstFailure ?_ ?_ ?_
    · rw [← behind, List.take_append_drop]
    · rw [howMany_pass told_before, passed]
    · rw [howMany_discard told_before, discarded]
    · rw [is_line.outcome, verdict]
      rfl
    · rw [is_line.input, ← input]
      rfl
    · rw [is_line.reference, ← reference]
      rfl
    · rw [is_line.subject, ← subject]
      rfl

end Counting

/-! ## Log and result -/

namespace Runner

variable (r : Runner σ) (flush : Log.Emitter → StateM σ (Except SystemFault Unit)) {p : Property}

/-- Whatever the sides answer, whatever the clock reads and whatever becomes of what is written,
when a property gives a result, its log has grown by exactly these lines: that it starts; in a
verbose log one for each check, in order, with the case, both outcomes and what came of it; and that
it ends, with what the result says and the case and the outcomes of its minimal failure. The lines
of a verbose log tell the counts and the first failure of the result. Every line is a single line of
text that passes the checks of the log and is read as the entry. -/
theorem runProperty_logged {before after : Recorded σ Log.Emitter} {result : PropertyResult}
    (h : ((r.logged flush).runProperty p).run before = (.ok result, after)) :
    ∃ checks minimal start lines finish,
      (r.logged flush).Course p before checks minimal result after ∧
      after.record.lines =
        before.record.lines ++ (start :: (lines ++ [finish])).map Log.Entry.line ∧
      StartLine r p start ∧
      (if r.circumstances.settings.verbose then
        List.Forall₂ (CaseLine r p) lines checks ∧ Recounts result lines
      else lines = []) ∧
      EndLine r p result finish ∧
      ∀ e ∈ start :: (lines ++ [finish]),
        (∀ x ∈ e.line.toList, 0x20 ≤ x.toNat) ∧ ∀ n, Log.validate e.line n = .ok e := by
  obtain ⟨checks, minimal, course, accounted, -, -, shown⟩ :=
    (r.logged flush).course_of_runProperty p h
  obtain ⟨begun, ended, awake, started, checked, stopped, first, start, made, last, duration,
    finish⟩ := id course
  obtain ⟨faithful, lines, continued, told⟩ := r.lines_of_checks flush made
  -- The start and the end are logged with or without the cases.
  have opening : Continues before.record [before.record.named
      (startedEntry r.circumstances (r.clock.wall.run awake.state).1 p)] started.record := by
    rw [r.log_of_note flush start, ← r.log_of_ticks flush first]
    exact .emit _ _
  have closing : Continues checked.record [checked.record.named
      (endedEntry (r.clock.wall.run stopped.state).1 p result minimal)] after.record := by
    rw [r.log_of_note flush finish, ← r.log_of_ticks flush last]
    exact .emit _ _
  refine ⟨checks, minimal, _, lines, _, course, opening.append (continued.append closing),
    startLine_named, ?_, endLine_named shown, fun e mem => ?_⟩
  · split_ifs at told ⊢
    · exact ⟨told, recounts_of_accounted accounted told faithful⟩
    · exact told
  · have sound : e.Sound := sound_of_lines startLine_named told (endLine_named shown) e mem
    exact ⟨Log.Entry.printable_line e, Log.Entry.validate_line sound⟩

/-- The runner that finds a mismatch that agrees once more, with a verbose log. -/
def verboseRunner : Runner Scripted.Counters :=
  { fickleRunner with
    circumstances := ⟨{ Settings.default with cases := 2, verbose := true }, ⟨0⟩⟩ }

/-- Seven lines are written. Five of them are about checks, and the two behind the mismatch are not
counted. The subject is called four times, five milliseconds each, which the last line says. -/
theorem runProperty_logged_verbose :
    ∃ result after lines finish,
      ((verboseRunner.logged fun _ => pure (.ok ())).runProperty ⟨.nothing, .differential⟩).run
        ⟨.zero, .start "run"⟩ = (.ok result, after) ∧
      (result.status, result.passed, result.discarded) = (.fail, 1, 1) ∧
      lines.length = 5 ∧ Recounts result lines ∧
      (finish.outcome, finish.level, finish.duration) = (some .fail, .error, some 20) ∧
      ∀ e ∈ lines ++ [finish],
        e.line ∈ after.record.lines ∧ Log.validate e.line 1 = .ok e := by
  have seen : (((verboseRunner.logged fun _ => pure (.ok ())).runProperty
        ⟨.nothing, .differential⟩).run ⟨.zero, .start "run"⟩).1.toOption.map
          (fun result => (result.status, result.passed, result.discarded, result.duration)) =
            some (PropertyStatus.fail, 1, 1, 20) ∧
      (((verboseRunner.logged fun _ => pure (.ok ())).runProperty ⟨.nothing, .differential⟩).run
        ⟨.zero, .start "run"⟩).2.record.lines.length = 7 := by
    decide +kernel
  rcases ran : ((verboseRunner.logged fun _ => pure (.ok ())).runProperty
      ⟨.nothing, .differential⟩).run ⟨.zero, .start "run"⟩ with ⟨fault | result, after⟩
  · rw [ran] at seen
    cases seen.1
  · rw [ran] at seen
    obtain ⟨outcome, written⟩ := seen
    obtain ⟨status, passed, discarded, duration⟩ :
        result.status = .fail ∧ result.passed = 1 ∧ result.discarded = 1 ∧
          result.duration = 20 := by simpa using Option.some.inj outcome
    obtain ⟨_, _, start, lines, finish, -, grown, -, ⟨-, recounts⟩, ending, valid⟩ :=
      verboseRunner.runProperty_logged (fun _ => pure (.ok ())) ran
    have count : lines.length = 5 := by
      rw [grown] at written
      simpa [Log.Emitter.start, Log.Emitter.lines] using written
    obtain ⟨failed, level⟩ := ending.fail status
    refine ⟨result, after, lines, finish, rfl, ?_, count, recounts, ?_, fun e mem => ?_⟩
    · rw [status, passed, discarded]
    · rw [failed, level, ending.duration, duration]
    · have inside : e ∈ start :: (lines ++ [finish]) := .tail _ mem
      refine ⟨?_, (valid e inside).2 1⟩
      rw [grown]
      exact List.mem_append_right _ (List.mem_map_of_mem inside)

end Runner

end Run

end FormatConformance
