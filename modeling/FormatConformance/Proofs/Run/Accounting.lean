import FormatConformance.Proofs.Run.Checks

/-!
# What a result accounts for

A property keeps two books: the exploration counts trials, and the tally counts verdicts as the
checks come in, also while the exploration is shrinking. This file shows that the books agree.
`Tally.recordAll_of_noMismatch` and `Tally.recordAll_of_shrinking` say what checks add to a tally
before and after the first mismatch; with the trials of the exploration they give the three shapes
that a result can have (`Accounted`), each in terms of the checks that the run made.
-/

namespace FormatConformance.Run

open Exploration (passes rejections Clean Explored)

variable {σ : Type}

/-! ## Counting checks -/

/-- Whether a verdict discards the case. -/
def isDiscard : Verdict → Bool
  | .discard _ => true
  | _ => false

/-- How many checks agreed. -/
def agreements (checks : List Checked) : Nat :=
  checks.countP fun k => k.verdict = .agree

/-- How many checks discarded their case. -/
def discards (checks : List Checked) : Nat :=
  checks.countP fun k => isDiscard k.verdict

theorem discards_append (xs ys : List Checked) :
    discards (xs ++ ys) = discards xs + discards ys :=
  List.countP_append

/-- No check found a mismatch. -/
def NoMismatch (checks : List Checked) : Prop :=
  ∀ k ∈ checks, k.verdict.mismatch? = none

/-- How many cases a property may discard: four for each case that is wanted, as far as 32 bits
count, and never less than 1024. -/
def rejectBudget (cases : UInt32) : Nat :=
  max 1024 (min (4 * cases.toNat) 0xffffffff)

theorem tolerated_limits (cases : UInt32) : (limits cases).tolerated = rejectBudget cases := rfl

theorem rejectBudget_lt (cases : UInt32) : rejectBudget cases + 1 < UInt64.size := by
  unfold rejectBudget UInt64.size
  omega

theorem noMismatch_cons {k : Checked} {checks : List Checked} :
    NoMismatch (k :: checks) ↔ k.verdict.mismatch? = none ∧ NoMismatch checks := by
  simp [NoMismatch]

theorem passes_tried (checks : List Checked) : passes (checks.map tried) = agreements checks := by
  rw [passes, List.countP_map]
  refine List.countP_congr fun k _ => ?_
  cases h : k.verdict <;> simp [tried, h, Verdict.trial]

theorem rejections_tried (checks : List Checked) :
    rejections (checks.map tried) = discards checks := by
  rw [rejections, List.countP_map]
  refine List.countP_congr fun k _ => ?_
  cases h : k.verdict <;> simp [tried, h, Verdict.trial, isDiscard]

theorem clean_tried {checks : List Checked} : Clean (checks.map tried) ↔ NoMismatch checks := by
  simp only [Clean, NoMismatch, List.forall_mem_map]
  refine forall_congr' fun k => forall_congr' fun _ => ?_
  cases h : k.verdict <;> simp [tried, h, Verdict.trial, Verdict.mismatch?]

/-! ## What checks add to a tally -/

namespace Tally

/-- After a mismatch nothing is counted any more. -/
theorem recordAll_of_shrinking {t : Tally} (checks : List Checked) (h : t.shrinking = true) :
    t.recordAll checks = t := by
  induction checks with
  | nil => rfl
  | cons k checks ih =>
    have same : t.record (.ok k.verdict) = t := by
      cases verdict : k.verdict <;> simp only [record, h, if_true]
    rw [recordAll_cons, same, ih]

/-- Until there is a mismatch every agreement and every discard counts. -/
theorem recordAll_of_noMismatch {t : Tally} {checks : List Checked} (h : t.firstFailure = none)
    (clean : NoMismatch checks) :
    t.recordAll checks =
      { t with
        passed := t.passed + UInt64.ofNat (agreements checks)
        discarded := t.discarded + UInt64.ofNat (discards checks) } := by
  induction checks generalizing t with
  | nil => simp [agreements, discards]
  | cons k checks ih =>
    obtain ⟨head, tail⟩ := noMismatch_cons.1 clean
    -- Without a failure the tally counts, and it goes on to do so.
    have searching : t.shrinking = false := by simp [shrinking, h]
    rw [recordAll_cons]
    cases verdict : k.verdict with
    | agree =>
      have counted : t.record (.ok .agree) = { t with passed := t.passed + 1 } := by
        simp [record, searching]
      rw [counted, ih (by exact h) tail]
      simp [agreements, discards, verdict, isDiscard, UInt64.ofNat_add, UInt64.add_assoc,
        UInt64.add_comm]
    | discard carveOut =>
      have counted : t.record (.ok (.discard carveOut)) =
          { t with discarded := t.discarded + 1 } := by
        simp [record, searching]
      rw [counted, ih (by exact h) tail]
      simp [agreements, discards, verdict, isDiscard, UInt64.ofNat_add, UInt64.add_assoc,
        UInt64.add_comm]
    | mismatch m =>
      rw [verdict] at head
      cases head

/-- The tally of checks without a mismatch. -/
theorem recordAll_empty_of_noMismatch {checks : List Checked} (clean : NoMismatch checks) :
    empty.recordAll checks =
      ⟨UInt64.ofNat (agreements checks), UInt64.ofNat (discards checks), none, none⟩ := by
  rw [recordAll_of_noMismatch rfl clean]
  simp [empty]

/-- The tally of checks with a mismatch counts what was before it and keeps the mismatch. -/
theorem recordAll_empty_of_mismatch {before later : List Checked} {first : Checked} {m : Mismatch}
    (clean : NoMismatch before) (found : first.verdict = .mismatch m) :
    empty.recordAll (before ++ first :: later) =
      ⟨UInt64.ofNat (agreements before), UInt64.ofNat (discards before), some m, none⟩ := by
  rw [recordAll_append, recordAll_empty_of_noMismatch clean, recordAll_cons, found,
    recordAll_of_shrinking]
  · rfl
  · rfl

end Tally

/-! ## The shapes of a result

A result passes, fails or gives up, and each shape says what was checked for it. The trials of the
exploration and the counts of the tally are two books of the same checks. -/

/-- What a result says of the checks of its run, in one of three shapes. In each of them the counts
and the mismatches are those of the checks. -/
inductive Accounted (cases : UInt32) (checks : List Checked) (result : PropertyResult) : Prop
  /-- Every case that was wanted agreed. -/
  | pass (status : result.status = .pass) (clean : NoMismatch checks)
      (agreed : agreements checks = cases.toNat) (passed : result.passed.toNat = cases.toNat)
      (discarded : result.discarded.toNat = discards checks)
      (budget : discards checks ≤ rejectBudget cases) (first : result.firstFailure = none)
      (minimal : result.minimalFailure = none) (reason : result.abortReason = none)
  /-- A mismatch was found. What came behind it is not counted, and the mismatch that is shown as
  the smallest one is one that some check found. -/
  | fail (before : List Checked) (found : Checked) (later : List Checked) {first shown : Mismatch}
      (status : result.status = .fail) (split : checks = before ++ found :: later)
      (clean : NoMismatch before) (verdict : found.verdict = .mismatch first)
      (passed : result.passed.toNat = agreements before) (fewer : agreements before < cases.toNat)
      (discarded : result.discarded.toNat = discards before)
      (budget : discards before ≤ rejectBudget cases)
      (firstFailure : result.firstFailure = some first.record)
      (observed : ∃ k ∈ checks, k.verdict = .mismatch shown)
      (minimalFailure : result.minimalFailure = some shown.record)
      (reason : result.abortReason = none)
  /-- One more case was discarded than the budget allows. -/
  | abort (status : result.status = .abort) (clean : NoMismatch checks)
      (passed : result.passed.toNat = agreements checks) (fewer : agreements checks < cases.toNat)
      (discarded : result.discarded.toNat = discards checks)
      (exhausted : discards checks = rejectBudget cases + 1) (first : result.firstFailure = none)
      (minimal : result.minimalFailure = none) (reason : result.abortReason = some gaveUpReason)

/-- The mismatch that is shown: that of the last check, or else the one that was found first. -/
theorem shown_mem {k : Checked} {checks : List Checked} {first : Mismatch}
    (found : ∃ k' ∈ checks, k'.verdict = .mismatch first) :
    ∃ shown, (k.verdict.mismatch? <|> some first) = some shown ∧
      ∃ k' ∈ checks ++ [k], k'.verdict = .mismatch shown := by
  cases verdict : k.verdict with
  | mismatch m => exact ⟨m, rfl, k, by simp, verdict⟩
  | agree =>
    obtain ⟨k', mem, verdict'⟩ := found
    exact ⟨first, rfl, k', by simp [mem], verdict'⟩
  | discard carveOut =>
    obtain ⟨k', mem, verdict'⟩ := found
    exact ⟨first, rfl, k', by simp [mem], verdict'⟩

/-- A failed trial was a check that found a mismatch. -/
theorem split_of_failed {checks : List Checked} {before shrunk : List (Case × Exploration.Trial)}
    {c : Case} (h : checks.map tried = before ++ (c, .failed) :: shrunk) :
    ∃ earlier found later m, checks = earlier ++ found :: later ∧ earlier.map tried = before ∧
      found.verdict = .mismatch m := by
  obtain ⟨earlier, rest, rfl, before_eq, rest_eq⟩ := List.map_eq_append_iff.1 h
  obtain ⟨found, later, rfl, found_eq, -⟩ := List.map_eq_cons_iff.1 rest_eq
  have failed : found.verdict.trial = .failed := congrArg Prod.snd found_eq
  cases verdict : found.verdict with
  | mismatch m => exact ⟨earlier, found, later, m, rfl, before_eq, verdict⟩
  | agree => simp [verdict, Verdict.trial] at failed
  | discard carveOut => simp [verdict, Verdict.trial] at failed

theorem toNat_ofNat_agreements {checks : List Checked} {cases : UInt32}
    (h : agreements checks ≤ cases.toNat) :
    (UInt64.ofNat (agreements checks)).toNat = agreements checks := by
  have small : cases.toNat < UInt64.size := Nat.lt_trans cases.toNat_lt (by decide)
  exact UInt64.toNat_ofNat_of_lt' (Nat.lt_of_le_of_lt h small)

theorem toNat_ofNat_discards {checks : List Checked} {cases : UInt32}
    (h : discards checks ≤ rejectBudget cases + 1) :
    (UInt64.ofNat (discards checks)).toNat = discards checks := by
  exact UInt64.toNat_ofNat_of_lt' (Nat.lt_of_le_of_lt h (rejectBudget_lt cases))

/-- The checks that are made after an exploration, and the mismatch to show: a case that failed is
checked once more. -/
inductive Rechecked (first : Option Mismatch) :
    Exploration.Ending Case → List Checked → Option Mismatch → Prop
  | finished : Rechecked first .finished [] none
  | gaveUp : Rechecked first .gaveUp [] none
  | failed (c : Case) (k : Checked) :
      Rechecked first (.failed c) [k] (k.verdict.mismatch? <|> first)

/-- The result of an exploration accounts for its checks, whatever the last check says. -/
theorem accounted_of_explored {cases : UInt32} {p : Property} {explored rechecks : List Checked}
    {ending : Exploration.Ending Case} {minimal : Option Mismatch} {duration : UInt64}
    (h : Explored (limits cases) (explored.map tried) ending)
    (again : Rechecked (Tally.empty.recordAll explored).firstFailure ending rechecks minimal) :
    Accounted cases (explored ++ rechecks)
      (resultOf p (Tally.empty.recordAll explored) ending minimal duration) := by
  generalize trials : explored.map tried = xs at h
  -- One case for each ending. In each of them what the exploration counted among the trials is
  -- first said of the checks, and then the tally is seen to have counted the same.
  cases h with
  | finished clean passed rejected =>
    subst trials
    -- Only a failure is checked once more, so the checks are those of the exploration.
    cases again
    rw [clean_tried] at clean
    rw [passes_tried] at passed
    rw [rejections_tried, tolerated_limits] at rejected
    have agreed : agreements explored = cases.toNat := passed
    rw [Tally.recordAll_empty_of_noMismatch clean, List.append_nil]
    refine .pass rfl clean agreed ?_ ?_ rejected rfl rfl rfl
    · exact (toNat_ofNat_agreements (Nat.le_of_eq agreed)).trans agreed
    · exact toNat_ofNat_discards (Nat.le_succ_of_le rejected)
  | gaveUp clean passed rejected =>
    subst trials
    cases again
    rw [clean_tried] at clean
    rw [passes_tried] at passed
    rw [rejections_tried, tolerated_limits] at rejected
    have fewer : agreements explored < cases.toNat := passed
    rw [Tally.recordAll_empty_of_noMismatch clean, List.append_nil]
    refine .abort rfl clean ?_ fewer ?_ rejected rfl rfl rfl
    · exact toNat_ofNat_agreements (Nat.le_of_lt fewer)
    · exact toNat_ofNat_discards (Nat.le_of_eq rejected)
  | failed input shrunk minimalCase clean passed rejected =>
    -- The books part here: the trials go on with the shrinking, and the tally stands still.
    obtain ⟨before, found, later, first, rfl, rfl, verdict⟩ := split_of_failed trials
    rw [clean_tried] at clean
    rw [passes_tried] at passed
    rw [rejections_tried, tolerated_limits] at rejected
    have fewer : agreements before < cases.toNat := passed
    rw [Tally.recordAll_empty_of_mismatch clean verdict] at again ⊢
    cases again with
    | failed _ k =>
      -- The last check may agree although the case failed before; `first` is what is left then.
      have seen : ∃ k' ∈ before ++ found :: later, k'.verdict = .mismatch first :=
        ⟨found, by simp, verdict⟩
      obtain ⟨shown, shown_eq, observed⟩ := shown_mem (k := k) seen
      rw [shown_eq]
      refine .fail before found (later ++ [k]) rfl (by simp) clean verdict ?_ fewer ?_ rejected rfl
        observed rfl rfl
      · exact toNat_ofNat_agreements (Nat.le_of_lt fewer)
      · exact toNat_ofNat_discards (Nat.le_succ_of_le rejected)

/-- Two answers of the subject agree or not; they never discard the case. -/
theorem not_isDiscard_of_idempotence {sides : Sides σ} {c : Case} {s t : σ} {k : Checked}
    (h : (Property.check sides .idempotence c).run s = (.ok k, t)) :
    isDiscard k.verdict = false := by
  obtain ⟨rerun, _, asked, h⟩ := Check.ok_of_bind h
  cases h
  obtain ⟨first, _, -, asked⟩ := Check.ok_of_bind asked
  obtain ⟨second, _, -, asked⟩ := Check.ok_of_bind asked
  cases asked
  by_cases same : sameAnswer first second <;> simp [same, Verdict.of, isDiscard]

/-! ## A property that gave a result -/

namespace Runner

variable (r : Runner σ) (p : Property)

/-- The course of a property that gave a result: the clock is read and it is noted that it starts,
the checks are made one after the other, the clock is read again and it is noted that it ends. What
the result says of the time is how many whole milliseconds lie between the two readings, as far as
64 bits count. -/
def Course (before : σ) (checks : List Checked) (minimal : Option Mismatch)
    (result : PropertyResult) (after : σ) : Prop :=
  ∃ begun ended awake started checked stopped,
    r.clock.ticks.run before = (begun, awake) ∧
    (r.note (.started p)).run awake = (.ok (), started) ∧
    r.Checks p started checks checked ∧
    r.clock.ticks.run checked = (ended, stopped) ∧
    result.duration.toNat = min ((ended - begun) / 1000000) (UInt64.size - 1) ∧
    (r.note (.ended p result minimal)).run stopped = (.ok (), after)

/-- An exploration without a fault is a chain of checks, and its tally is what they add up to. -/
theorem checks_of_exploration {s t : σ} {ending : Exploration.Ending Case} {tally : Tally}
    (h : (r.exploration p).run s = (.ok (ending, tally), t)) (sound : tally.fatal = none) :
    ∃ checks, r.Checks p s checks t ∧ tally = Tally.empty.recordAll checks ∧
      Explored (limits r.circumstances.settings.cases) (checks.map tried) ending := by
  obtain ⟨trials, chain, explored⟩ := Exploration.explore_explored (r.trial p) (r.cases p.entry)
    r.shrinker (limits r.circumstances.settings.cases) ⟨Tally.empty, s⟩
  cases h
  obtain ⟨-, checks, made, rfl, total⟩ := r.checks_of_tried p chain sound
  exact ⟨checks, made, total, explored⟩

/-- The case that failed is checked once more, and no other case. -/
theorem rechecked_of_minimalMismatch? {first minimal : Option Mismatch} {s t : σ}
    {ending : Exploration.Ending Case}
    (h : (r.minimalMismatch? p first ending).run s = (.ok minimal, t)) :
    ∃ rechecks, r.Checks p s rechecks t ∧ Rechecked first ending rechecks minimal := by
  cases ending with
  | finished =>
    cases h
    exact ⟨[], .nil s, .finished⟩
  | gaveUp =>
    cases h
    exact ⟨[], .nil s, .gaveUp⟩
  | failed c =>
    obtain ⟨k, u, checked, h⟩ := Check.ok_of_bind h
    cases h
    -- The check that is made again is of the case that it reports.
    have step : (r.check p k.input).run s = (.ok k, t) := by
      rw [r.input_of_check_run p checked]
      exact checked
    exact ⟨[k], .cons step (.nil t), .failed c k⟩

/-- Every property that gives a result has a course, and the result names the property, accounts for
its checks and has the mismatch that was noted at the end. -/
theorem course_of_runProperty {before after : σ} {result : PropertyResult}
    (h : (r.runProperty p).run before = (.ok result, after)) :
    ∃ checks minimal, r.Course p before checks minimal result after ∧
      Accounted r.circumstances.settings.cases checks result ∧
      result.entryPoint = p.entry.name ∧ result.property = p.demand.name ∧
      result.minimalFailure = minimal.map Mismatch.record := by
  obtain ⟨begun, awake, first, h⟩ := Check.ok_of_bind h
  obtain ⟨_, started, start, h⟩ := Check.ok_of_bind h
  obtain ⟨⟨ending, tally⟩, s, explored, h⟩ := Check.ok_of_bind h
  -- A fault is kept in the tally, and with one in it there would be no result.
  cases fatal : tally.fatal with
  | some fault =>
    simp only [fatal] at h
    cases h
  | none =>
    simp only [fatal] at h
    obtain ⟨minimal, t, again, h⟩ := Check.ok_of_bind h
    obtain ⟨ended, stopped, last, h⟩ := Check.ok_of_bind h
    obtain ⟨_, u, noted, h⟩ := Check.ok_of_bind h
    cases h
    cases first
    cases last
    obtain ⟨checks, made, rfl, trials⟩ := r.checks_of_exploration p explored fatal
    obtain ⟨rechecks, remade, rechecked⟩ := r.rechecked_of_minimalMismatch? p again
    refine ⟨checks ++ rechecks, minimal, ⟨_, _, _, started, t, _, rfl, start, made.append remade,
      rfl, Clock.toNat_milliseconds _ _, noted⟩, accounted_of_explored trials rechecked, rfl, rfl,
      rfl⟩

/-- When the subject is asked twice, nothing is discarded. -/
theorem discards_of_idempotence (twice : p.demand = .idempotence) {s t : σ}
    {checks : List Checked} (h : r.Checks p s checks t) : discards checks = 0 := by
  refine List.countP_eq_zero.2 (h.forall_mem fun s k t step => ?_)
  obtain ⟨_, made, -⟩ := r.made_of_check p step
  rw [twice] at made
  simp [not_isDiscard_of_idempotence made]

/-- The result of a property, whatever the sides answer, whichever cases are drawn and however the
shrinker goes on: it has one of three shapes, in terms of the checks that were made; and when the
subject is asked twice, no case is discarded and nothing is given up. -/
theorem runProperty_accounted {before after : σ} {result : PropertyResult}
    (h : (r.runProperty p).run before = (.ok result, after)) :
    ∃ checks minimal, r.Course p before checks minimal result after ∧
      Accounted r.circumstances.settings.cases checks result ∧
      (p.demand = .idempotence → result.discarded = 0 ∧ result.status ≠ .abort) := by
  obtain ⟨checks, minimal, course, accounted, -⟩ := r.course_of_runProperty p h
  refine ⟨checks, minimal, course, accounted, fun twice => ?_⟩
  obtain ⟨_, _, _, _, _, _, -, -, made, -⟩ := course
  have nothing : discards checks = 0 := r.discards_of_idempotence p twice made
  -- The discards that the result counts are among those of all checks.
  rw [← UInt64.toNat_inj]
  cases accounted with
  | pass status _ _ _ discarded => exact ⟨by rw [discarded, nothing]; rfl, by simp [status]⟩
  | fail earlier _ _ status split _ _ _ _ discarded =>
    rw [split, discards_append] at nothing
    have nothing_before : discards earlier = 0 := (Nat.add_eq_zero_iff.1 nothing).1
    exact ⟨by rw [discarded, nothing_before]; rfl, by simp [status]⟩
  | abort _ _ _ _ _ exhausted => omega

/-- Two cases are wanted. The first one is discarded, the second agrees, and the third does not; the
same case agrees in shrinking and once more at the end, which counts for nothing. -/
def fickleRunner : Runner Scripted.Counters :=
  let rendered : Scripted.Reply Reference.Answer ReferenceFault := .gives (.success [0x61])
  scriptedRunner 2
    ⟨.gives ⟨.failure (CarveOut.mark .automaticToManualNumbering), some .unexpected⟩,
      [rendered, rendered, rendered, rendered]⟩
    ⟨.gives (.success [0x61]),
      [.gives (.success [0x62]), .gives (.success [0x61]), .gives (.success [0x61])]⟩

theorem runProperty_accounted_fickle :
    ∃ result after,
      (fickleRunner.runProperty ⟨.nothing, .differential⟩).run .zero = (.ok result, after) ∧
      (result.status, result.passed, result.discarded) = (.fail, 1, 1) ∧
      ∃ checks minimal,
        fickleRunner.Course ⟨.nothing, .differential⟩ .zero checks minimal result after ∧
        Accounted 2 checks result := by
  have seen : (((fickleRunner.runProperty ⟨.nothing, .differential⟩).run .zero).1.toOption.map
      fun result => (result.status, result.passed, result.discarded)) = some (.fail, 1, 1) := by
    decide +kernel
  rcases ran : (fickleRunner.runProperty ⟨.nothing, .differential⟩).run .zero with
    ⟨fault | result, after⟩
  · rw [ran] at seen
    cases seen
  · rw [ran] at seen
    obtain ⟨checks, minimal, course, accounted, -⟩ :=
      fickleRunner.runProperty_accounted ⟨.nothing, .differential⟩ ran
    exact ⟨result, after, rfl, Option.some.inj seen, checks, minimal, course, accounted⟩

end Runner

end FormatConformance.Run
