import FormatConformance.Proofs.Run.Accounting
import FormatConformance.Proofs.Watching

/-!
# The first fault of a run

An exploration has no word for a fault. It takes the check that ended in one for a failure and goes
on to shrink it, and only the tally knows that nothing is checked any more. This file shows that
this is enough. `Runner.Halted` says where the fault of a property comes from, in terms of its
checks, and `Runner.stops_at_first_fault` says of properties, of all of them together and of reports
that the first call or log entry that ends in a fault is the last one, and its fault the result.
-/

namespace FormatConformance.Run

variable {σ : Type}

/-! ## Where a fault comes from -/

/-- Once there is a fault in the tally, trials change nothing. -/
theorem Runner.eq_of_tried_fatal (r : Runner σ) (p : Property) {s t : Progress σ}
    {trials : List (Case × Exploration.Trial)}
    (chain : Exploration.Tried (r.trial p) s trials t) (fatal : s.tally.fatal.isSome = true) :
    s = t := by
  induction chain with
  | nil s => rfl
  | cons step _ ih =>
    rw [trial_run, if_pos fatal] at step
    obtain ⟨-, rfl⟩ := Prod.mk.inj step
    exact ih fatal

/-- When there is a fault in the tally in the end, some check after sound ones ended in it, and the
trials behind that check left everything as it was. -/
theorem Runner.halted_of_tried (r : Runner σ) (p : Property) {s t : Progress σ} {fault : Fault}
    {trials : List (Case × Exploration.Trial)}
    (chain : Exploration.Tried (r.trial p) s trials t) (sound : s.tally.fatal = none)
    (fatal : t.tally.fatal = some fault) :
    ∃ checks c u, r.Checks p s.sides checks u ∧ (r.check p c).run u = (.error fault, t.sides) := by
  induction chain with
  | nil s =>
    rw [sound] at fatal
    cases fatal
  | @cons s u t x rest step later ih =>
    rw [trial_run, sound] at step
    rcases checked : (r.check p x.1).run s.sides with ⟨found | k, v⟩
    · simp only [checked] at step
      obtain ⟨-, rfl⟩ := Prod.mk.inj step
      -- The tally is fatal from here on, so the trials that are left do nothing.
      have still : ⟨s.tally.record (.error found), v⟩ = t :=
        r.eq_of_tried_fatal p later rfl
      subst still
      cases fatal
      exact ⟨[], x.1, s.sides, .nil _, checked⟩
    · simp only [checked] at step
      obtain ⟨-, rfl⟩ := Prod.mk.inj step
      have input : k.input = x.1 := r.input_of_check_run p checked
      have still_sound : (s.tally.record (.ok k.verdict)).fatal = none := by
        rw [Tally.fatal_record_ok, sound]
      -- This check is one of those before the fault.
      obtain ⟨checks, c, w, made, faulted⟩ := ih still_sound fatal
      exact ⟨k :: checks, c, w, .cons (by rw [input]; exact checked) made, faulted⟩

namespace Runner

variable (r : Runner σ) (p : Property)

/-- Where the fault of a property comes from, and that nothing happens behind it: the state is that
in which a check ended, made after checks that were sound, or that in which it was noted that the
property starts or ends. -/
inductive Halted (before : σ) (fault : Fault) (after : σ) : Prop
  | starting {begun : Nat} {awake : σ} (first : r.clock.ticks.run before = (begun, awake))
      (start : (r.note (.started p)).run awake = (.error fault, after))
  | checking {begun : Nat} {awake started s : σ} (checks : List Checked) (c : Case)
      (first : r.clock.ticks.run before = (begun, awake))
      (start : (r.note (.started p)).run awake = (.ok (), started))
      (made : r.Checks p started checks s)
      (faulted : (r.check p c).run s = (.error fault, after))
  | ending {begun ended : Nat} {awake started s stopped : σ} (checks : List Checked)
      (result : PropertyResult) (minimal : Option Mismatch)
      (first : r.clock.ticks.run before = (begun, awake))
      (start : (r.note (.started p)).run awake = (.ok (), started))
      (made : r.Checks p started checks s) (last : r.clock.ticks.run s = (ended, stopped))
      (noted : (r.note (.ended p result minimal)).run stopped = (.error fault, after))

/-- An exploration whose tally is fatal ended with a check in that fault. -/
theorem halted_of_exploration {s t : σ} {ending : Exploration.Ending Case} {tally : Tally}
    {fault : Fault} (h : (r.exploration p).run s = (.ok (ending, tally), t))
    (fatal : tally.fatal = some fault) :
    ∃ checks c u, r.Checks p s checks u ∧ (r.check p c).run u = (.error fault, t) := by
  obtain ⟨trials, chain, -⟩ := Exploration.explore_explored (r.trial p) (r.cases p.entry)
    r.shrinker (limits r.circumstances.settings.cases) ⟨Tally.empty, s⟩
  cases h
  exact r.halted_of_tried p chain rfl fatal

/-- Only the check of the smallest case can end in a fault once the exploration is over. -/
theorem halted_of_minimalMismatch? {first : Option Mismatch} {s t : σ}
    {ending : Exploration.Ending Case} {fault : Fault}
    (h : (r.minimalMismatch? p first ending).run s = (.error fault, t)) :
    ∃ c, (r.check p c).run s = (.error fault, t) := by
  cases ending with
  | finished => cases h
  | gaveUp => cases h
  | failed c =>
    rcases Check.error_of_bind h with faulted | ⟨_, _, _, h⟩
    · exact ⟨c, faulted⟩
    · cases h

theorem halted_of_runProperty {before after : σ} {fault : Fault}
    (h : (r.runProperty p).run before = (.error fault, after)) :
    r.Halted p before fault after := by
  -- The clock cannot end in a fault; each other step can, and is looked at in its order.
  rcases Check.error_of_bind h with first | ⟨begun, awake, first, h⟩
  · cases first
  cases first
  rcases Check.error_of_bind h with start | ⟨_, started, start, h⟩
  · exact .starting rfl start
  rcases Check.error_of_bind h with explored | ⟨⟨ending, tally⟩, s, explored, h⟩
  · cases explored
  cases fatal : tally.fatal with
  | some found =>
    simp only [fatal] at h
    cases h
    obtain ⟨checks, c, _, made, faulted⟩ := r.halted_of_exploration p explored fatal
    exact .checking checks c rfl start made faulted
  | none =>
    simp only [fatal] at h
    obtain ⟨checks, made, -, -⟩ := r.checks_of_exploration p explored fatal
    rcases Check.error_of_bind h with again | ⟨minimal, t, again, h⟩
    · obtain ⟨c, faulted⟩ := r.halted_of_minimalMismatch? p again
      exact .checking checks c rfl start made faulted
    obtain ⟨rechecks, remade, -⟩ := r.rechecked_of_minimalMismatch? p again
    rcases Check.error_of_bind h with last | ⟨ended, stopped, last, h⟩
    · cases last
    cases last
    rcases Check.error_of_bind h with noted | ⟨_, _, _, h⟩
    · exact .ending (checks ++ rechecks) _ minimal rfl start (made.append remade) rfl noted
    · cases h

end Runner

/-! ## Runs on record -/

/-- The state in the course of a property without the record. -/
def Progress.unwatched (s : Progress (Watched σ)) : Progress σ :=
  ⟨s.tally, s.sides.state⟩

/-- A log that puts down every entry as an action. -/
def Sink.watched (sink : Sink σ) : Sink (Watched σ) :=
  fun entry => recording
    (fun written actions => actions ++ [.wrote entry (faultOf (written.mapError Fault.system))])
    (sink entry)

/-- The same runner with its calls and its log on record. -/
def Runner.watched (r : Runner σ) : Runner (Watched σ) :=
  r.recorded (fun made actions => actions ++ [.asked made]) (r.sink.map Sink.watched)

namespace Runner

variable (r : Runner σ) (p : Property)

theorem stopsAtFault_write (entry : Log.Entry) :
    StopsAtFault (r.watched.write entry) (r.write entry) := by
  rw [write, write, watched, recorded]
  cases r.sink with
  | none => exact .pure _
  | some sink => exact .action (fun _ => rfl) _

theorem stopsAtFault_ticks : StopsAtFault r.watched.ticks r.ticks :=
  .beside _

theorem stopsAtFault_note (e : Event) : StopsAtFault (r.watched.note e) (r.note e) := by
  have same : r.watched.circumstances = r.circumstances := rfl
  rw [note, note, same]
  split
  · exact .bind (.beside _) fun now => r.stopsAtFault_write _
  · exact .pure _

theorem stopsAtFault_check (c : Case) : StopsAtFault (r.watched.check p c) (r.check p c) :=
  .bind (stopsAtFault_propertyCheck r.sides c p.demand)
    fun _ => .bind (r.stopsAtFault_note _) fun _ => .pure _

theorem stopsAtFault_minimalMismatch? (first : Option Mismatch)
    (ending : Exploration.Ending Case) :
    StopsAtFault (r.watched.minimalMismatch? p first ending)
      (r.minimalMismatch? p first ending) := by
  cases ending with
  | finished => exact .pure _
  | gaveUp => exact .pure _
  | failed c => exact .bind (r.stopsAtFault_check p c) fun _ => .pure _

theorem erases_trial (c : Case) :
    Erases Progress.unwatched (r.watched.trial p c) (r.trial p c) := by
  intro s
  have same_tally : s.unwatched.tally = s.tally := rfl
  have same_check : (r.check p c).run s.unwatched.sides =
      (((r.watched.check p c).run s.sides).1, ((r.watched.check p c).run s.sides).2.state) :=
    (r.stopsAtFault_check p c).erases s.sides
  rw [trial_run, trial_run, same_tally, same_check]
  split
  · rfl
  · rcases (r.watched.check p c).run s.sides with ⟨fault | checked, t⟩ <;> rfl

/-- The exploration of a property as a computation over its progress. -/
def explored : StateM (Progress σ) (Exploration.Ending Case) :=
  Exploration.explore (limits r.circumstances.settings.cases) r.shrinker (r.cases p.entry)
    (r.trial p)

theorem exploration_run (s : σ) :
    (r.exploration p).run s =
      (.ok (((r.explored p).run ⟨.empty, s⟩).1, ((r.explored p).run ⟨.empty, s⟩).2.tally),
        ((r.explored p).run ⟨.empty, s⟩).2.sides) := rfl

theorem erases_exploration :
    Erases Recorded.state (r.watched.exploration p).run (r.exploration p).run := by
  intro s
  have same : (r.explored p).run ⟨.empty, s.state⟩ =
      (((r.watched.explored p).run ⟨.empty, s⟩).1,
        ((r.watched.explored p).run ⟨.empty, s⟩).2.unwatched) :=
    Exploration.erases_explore (r.erases_trial p) _ _ _ ⟨Tally.empty, s⟩
  show (r.exploration p).run s.state = _
  rw [exploration_run, same]
  rfl

theorem erases_runProperty :
    Erases Recorded.state (r.watched.runProperty p).run (r.runProperty p).run := by
  refine r.stopsAtFault_ticks.erases.bind_check fun begun => ?_
  refine (r.stopsAtFault_note _).erases.bind_check fun _ => ?_
  refine (r.erases_exploration p).bind_check fun ⟨ending, tally⟩ => ?_
  cases fatal : tally.fatal with
  | some fault =>
    simp only [fatal]
    exact fun _ => rfl
  | none =>
    simp only [fatal]
    refine (r.stopsAtFault_minimalMismatch? p _ _).erases.bind_check fun minimal => ?_
    refine r.stopsAtFault_ticks.erases.bind_check fun ended => ?_
    exact (r.stopsAtFault_note _).erases.bind_check fun _ => .pure _

theorem adds_of_checks {s t : Watched σ} {checks : List Checked}
    (h : r.watched.Checks p s checks t) : Adds s none t := by
  induction h with
  | nil s => exact .refl s
  | cons step _ ih => exact ((r.stopsAtFault_check p _).adds_of_run step).trans ih

/-- A reading of the clock adds nothing. -/
theorem adds_of_ticks {s t : Watched σ} {read : Nat}
    (h : r.watched.clock.ticks.run s = (read, t)) : Adds s none t := by
  cases h
  exact .refl s

/-- The record of a property: its checks and what was noted, up to the first fault. -/
theorem stopsAtFault_runProperty :
    StopsAtFault (r.watched.runProperty p) (r.runProperty p) where
  erases := r.erases_runProperty p
  adds s := by
    rcases ran : (r.watched.runProperty p).run s with ⟨fault | result, t⟩
    -- With a fault the record ends where the property halted, and without one it holds the whole
    -- course.
    · cases r.watched.halted_of_runProperty p ran with
      | starting first start =>
        exact (r.adds_of_ticks first).trans ((r.stopsAtFault_note _).adds_of_run start)
      | checking checks c first start made faulted =>
        exact (r.adds_of_ticks first).trans (((r.stopsAtFault_note _).adds_of_run start).trans
          ((r.adds_of_checks p made).trans ((r.stopsAtFault_check p _).adds_of_run faulted)))
      | ending checks result minimal first start made last noted =>
        exact (r.adds_of_ticks first).trans (((r.stopsAtFault_note _).adds_of_run start).trans
          ((r.adds_of_checks p made).trans
            ((r.adds_of_ticks last).trans ((r.stopsAtFault_note _).adds_of_run noted))))
    · obtain ⟨checks, minimal, ⟨_, _, _, _, _, _, first, start, made, last, -, noted⟩, -⟩ :=
        r.watched.course_of_runProperty p ran
      exact (r.adds_of_ticks first).trans (((r.stopsAtFault_note _).adds_of_run start).trans
        ((r.adds_of_checks p made).trans
          ((r.adds_of_ticks last).trans ((r.stopsAtFault_note _).adds_of_run noted))))

theorem stopsAtFault_runProperties (properties : List Property) :
    StopsAtFault (r.watched.runProperties properties) (r.runProperties properties) := by
  induction properties with
  | nil => exact .pure _
  | cons p rest ih => exact .bind (r.stopsAtFault_runProperty p) fun _ => ih.bind fun _ => .pure _

theorem stopsAtFault_report (title reference : String) (entries : List EntryPoint)
    (table : List Scenario) :
    StopsAtFault (r.watched.report title reference entries table)
      (r.report title reference entries table) :=
  .bind (.beside _) fun _ => .bind (r.stopsAtFault_runProperties _) fun _ =>
    .bind (stopsAtFault_verifyAll r.sides table) fun _ => .pure _

/-! ## What comes behind a fault

Behind the property that faults, the properties that were left are not run, nor are the fixed cases.
What they would do takes no part in the statement. -/

/-- No property is run behind one that ended in a fault. -/
theorem runProperties_of_fault {done later : List Property} {before middle after : σ}
    {results : List PropertyResult} {fault : Fault}
    (sound : (r.runProperties done).run before = (.ok results, middle))
    (faulted : (r.runProperty p).run middle = (.error fault, after)) :
    (r.runProperties (done ++ p :: later)).run before = (.error fault, after) := by
  induction done generalizing before results with
  | nil =>
    cases sound
    exact Check.run_bind_of_error faulted
  -- The properties before it gave results, each of which was one composition.
  | cons q rest ih =>
    obtain ⟨result, s, first, sound⟩ := Check.ok_of_bind sound
    obtain ⟨others, t, sound, last⟩ := Check.ok_of_bind sound
    cases last
    exact (Check.run_bind_of_ok first).trans (Check.run_bind_of_error (ih sound))

/-- The first fault ends everything. In the record of a check, of a property, of all properties and
of a report, the first action that ended in a fault is the last one, and its fault is the result.
The fault of a property is that of a check behind sound ones, or of noting that the property starts
or ends; and the properties together and the report then end with it as the property did, whatever
properties and scenarios are left. -/
theorem stops_at_first_fault :
    (∀ p c, StopsAtFault (r.watched.check p c) (r.check p c)) ∧
    (∀ p, StopsAtFault (r.watched.runProperty p) (r.runProperty p)) ∧
    (∀ entries, StopsAtFault (r.watched.runAll entries) (r.runAll entries)) ∧
    (∀ title reference entries table,
      StopsAtFault (r.watched.report title reference entries table)
        (r.report title reference entries table)) ∧
    ∀ p middle fault after, (r.runProperty p).run middle = (.error fault, after) →
      r.Halted p middle fault after ∧
      ∀ entries done later before results, Property.ofEntries entries = done ++ p :: later →
        (r.runProperties done).run before = (.ok results, middle) →
        (r.runAll entries).run before = (.error fault, after) ∧
        ∀ title reference table awake now, r.clock.wall.run awake = (now, before) →
          (r.report title reference entries table).run awake = (.error fault, after) := by
  refine ⟨fun p c => r.stopsAtFault_check p c, fun p => r.stopsAtFault_runProperty p,
    fun entries => r.stopsAtFault_runProperties _, fun title reference entries table =>
    r.stopsAtFault_report title reference entries table, ?_⟩
  intro p middle fault after faulted
  refine ⟨r.halted_of_runProperty p faulted, ?_⟩
  intro entries done later before results split sound
  have all_faulted : (r.runAll entries).run before = (.error fault, after) := by
    rw [runAll, split]
    exact r.runProperties_of_fault p sound faulted
  refine ⟨all_faulted, fun title reference table awake now read => ?_⟩
  -- A report reads the clock once before its first property.
  have woken : r.time.run awake = (.ok now, before) := by
    rw [time, Check.run_lift, read]
  exact (Check.run_bind_of_ok woken).trans (Check.run_bind_of_error all_faulted)

/-- The first case is a mismatch, and in shrinking it the subject ends in a fault. -/
def faultyRunner : Runner Scripted.Counters :=
  scriptedRunner 2 ⟨.gives (.success [0x61]), []⟩
    ⟨.gives (.success [0x62]), [.faults (.interiorNul "template" 0), .gives (.success [0x61])]⟩

/-- Each side was called for the first case and for the next one, and not again. -/
theorem stops_at_first_fault_in_shrinking :
    ∃ after, after = ⟨2, 2, 0⟩ ∧
      (faultyRunner.runProperty ⟨.nothing, .differential⟩).run .zero =
        (.error (.marshal (.interiorNul "template" 0)), after) ∧
      (faultyRunner.report "" "" [.nothing] Scenario.table).run .zero =
        (.error (.marshal (.interiorNul "template" 0)), after) := by
  have seen : faultOf ((faultyRunner.runProperty ⟨.nothing, .differential⟩).run
        .zero).1 = some (.marshal (.interiorNul "template" 0)) ∧
      ((faultyRunner.runProperty ⟨.nothing, .differential⟩).run .zero).2 = ⟨2, 2, 0⟩ := by
    decide +kernel
  rcases ran : (faultyRunner.runProperty ⟨.nothing, .differential⟩).run .zero with
    ⟨fault | result, after⟩
  · rw [ran] at seen
    obtain ⟨found, calls⟩ := seen
    cases found
    obtain ⟨-, -, -, -, behind⟩ := faultyRunner.stops_at_first_fault
    obtain ⟨-, nothing_later⟩ := behind _ _ _ _ ran
    obtain ⟨-, reported⟩ := nothing_later [.nothing] [] _ _ _ rfl rfl
    exact ⟨after, calls, rfl, reported "" "" Scenario.table .zero _ rfl⟩
  · rw [ran] at seen
    cases seen.1

end Runner

end FormatConformance.Run
