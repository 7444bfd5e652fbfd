import FormatConformance.Run.Runner
import FormatConformance.Scripted.Sides
import FormatConformance.Proofs.Exploration

/-!
# The checks of a property

The exploration of a property calls the sides only through checks, and it does not know of their
faults: the tally does. This file takes the exploration apart into the checks that were really made
(`Runner.Checks`). The step lemma is `Runner.trial_run`: what one trial does to the tally and to the
run. The run lemma is `Runner.checks_of_tried`: as long as no fault is in the tally, a chain of
trials is a chain of checks, and the tally is what the checks add up to. At the end stands a runner
over scripted sides, at which later files look to see their statements at work.
-/

namespace FormatConformance.Run

variable {σ : Type}

/-! ## Running the parts -/

namespace Runner

variable (r : Runner σ) (p : Property)

/-- A check that gives a value was made of the sides, and then it was noted. -/
theorem made_of_check {c : Case} {s t : σ} {k : Checked}
    (h : (r.check p c).run s = (.ok k, t)) :
    ∃ u, (Property.check r.sides p.demand c).run s = (.ok k, u) ∧
      (r.note (.checked p k)).run u = (.ok (), t) := by
  obtain ⟨checked, u, made, h⟩ := Check.ok_of_bind h
  obtain ⟨_, v, noted, h⟩ := Check.ok_of_bind h
  cases h
  exact ⟨u, made, noted⟩

theorem trial_run (c : Case) (s : Progress σ) :
    (r.trial p c).run s =
      if s.tally.fatal.isSome then (.failed, s)
      else
        match (r.check p c).run s.sides with
        | (.error fault, t) => (.failed, ⟨s.tally.record (.error fault), t⟩)
        | (.ok checked, t) =>
          (checked.verdict.trial, ⟨s.tally.record (.ok checked.verdict), t⟩) := by
  -- With a fault in the tally nothing is called any more.
  show (if s.tally.fatal.isSome then (Exploration.Trial.failed, s) else
    (trialOf (((r.check p c).run s.sides).1.map Checked.verdict),
      ⟨s.tally.record (((r.check p c).run s.sides).1.map Checked.verdict),
        ((r.check p c).run s.sides).2⟩)) = _
  rcases (r.check p c).run s.sides with ⟨fault | checked, t⟩ <;> rfl

end Runner

/-! ## Chains of checks

A search makes one check after the other, whether it is looking for a failure or shrinking one. A
chain keeps the states in between, as each check starts where the last one ended. -/

/-- A check keeps the case that it is made of. -/
theorem input_of_check {sides : Sides σ} {demand : Demand} {c : Case} {s t : σ} {checked : Checked}
    (h : (Property.check sides demand c).run s = (.ok checked, t)) : checked.input = c := by
  cases demand <;>
  · obtain ⟨_, _, _, h⟩ := Check.ok_of_bind h
    cases h
    rfl

/-- What a check is as a trial: its case, and what the exploration is told of it. -/
def tried (k : Checked) : Case × Exploration.Trial :=
  (k.input, k.verdict.trial)

namespace Runner

variable (r : Runner σ) (p : Property)

/-- The run makes these checks of a property one after the other, and none of them ends in a
fault. -/
def Checks : σ → List Checked → σ → Prop :=
  Chain fun s k t => (r.check p k.input).run s = (.ok k, t)

theorem input_of_check_run {c : Case} {s t : σ} {checked : Checked}
    (h : (r.check p c).run s = (.ok checked, t)) : checked.input = c := by
  obtain ⟨_, made, -⟩ := r.made_of_check p h
  exact input_of_check made

end Runner

/-! ## The tally of a chain of checks -/

namespace Tally

/-- The tally after checks none of which ended in a fault. -/
def recordAll (t : Tally) (checks : List Checked) : Tally :=
  checks.foldl (fun t k => t.record (.ok k.verdict)) t

@[simp] theorem recordAll_nil (t : Tally) : t.recordAll [] = t := rfl

@[simp] theorem recordAll_cons (t : Tally) (k : Checked) (checks : List Checked) :
    t.recordAll (k :: checks) = (t.record (.ok k.verdict)).recordAll checks := rfl

theorem recordAll_append (t : Tally) (xs ys : List Checked) :
    t.recordAll (xs ++ ys) = (t.recordAll xs).recordAll ys :=
  List.foldl_append

/-- Only a fault makes a tally fatal. -/
@[simp] theorem fatal_record_ok (t : Tally) (verdict : Verdict) :
    (t.record (.ok verdict)).fatal = t.fatal := by
  cases verdict <;> simp only [record] <;> split <;> rfl

end Tally

/-- While no fault is in the tally, trials are checks, and the tally is what they add up to. -/
theorem Runner.checks_of_tried (r : Runner σ) (p : Property) {s t : Progress σ}
    {trials : List (Case × Exploration.Trial)}
    (chain : Exploration.Tried (r.trial p) s trials t) (sound : t.tally.fatal = none) :
    s.tally.fatal = none ∧ ∃ checks, r.Checks p s.sides checks t.sides ∧ trials = checks.map tried ∧
      t.tally = s.tally.recordAll checks := by
  induction chain with
  | nil s => exact ⟨sound, [], .nil _, rfl, rfl⟩
  | @cons s u t x rest step _ ih =>
    obtain ⟨none_u, checks, chain, rfl, total⟩ := ih sound
    rw [trial_run] at step
    split at step
    -- A tally that is fatal stays so, and the chain could not have ended without a fault.
    case isTrue fatal =>
      obtain ⟨-, rfl⟩ := Prod.mk.inj step
      rw [none_u] at fatal
      cases fatal
    case isFalse alive =>
      have none_s : s.tally.fatal = none := by simpa using alive
      rcases checked : (r.check p x.1).run s.sides with ⟨fault | k, v⟩
      · simp only [checked] at step
        obtain ⟨-, rfl⟩ := Prod.mk.inj step
        cases none_u
      · simp only [checked] at step
        obtain ⟨trial, rfl⟩ := Prod.mk.inj step
        have input : k.input = x.1 := r.input_of_check_run p checked
        refine ⟨none_s, k :: checks, .cons (by rw [input]; exact checked) chain, ?_, total⟩
        rw [List.map_cons, tried, input, trial]

/-! ## A runner over scripted sides -/

/-- A clock on which each call to the subject takes five milliseconds. -/
def callClock : Clock Scripted.Counters where
  wall s := (⟨0, s.subject * 5000000⟩, s)
  ticks s := (s.subject * 5000000, s)

/-- A runner whose sides answer from scripts and look at no case: every case is the same, and the
shrinker proposes it once more. -/
def scriptedRunner (cases : UInt32)
    (reference : Scripted.Script (Scripted.Reply Reference.Answer ReferenceFault))
    (subject : Scripted.Script (Scripted.Reply Outcome MarshalFault)) :
    Runner Scripted.Counters where
  sides := Scripted.sides (.script reference) (.scripted (.script subject) none)
  clock := callClock
  circumstances := ⟨{ Settings.default with cases }, ⟨0⟩⟩
  cases _ _ := .ofTemplate ""
  shrinker := .greedy 1 fun c => [c]
  sink := none

end FormatConformance.Run
