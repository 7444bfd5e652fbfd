import FormatConformance.Exploration
import FormatConformance.Proofs.Computation

/-!
# What an exploration does

An exploration over a state is a chain of trials: first those of the search, then, if one of them
failed, those of the shrinking. `explore_explored` says for every test, every order of inputs and
every shrinker which chains lead to which ending (`Explored`): an exploration finishes when as many
inputs passed as were wanted, gives up on the first rejection that is not tolerated any more, and
reports a failure only behind the first trial that failed.
-/

namespace FormatConformance.Exploration

variable {S α : Type}

/-- The trials that a test made, in order, with the inputs that they were made of. -/
def Tried (test : α → StateM S Trial) : S → List (α × Trial) → S → Prop :=
  Chain fun s x t => (test x.1).run s = (x.2, t)

/-- How many trials passed. -/
def passes (trials : List (α × Trial)) : Nat :=
  trials.countP fun x => x.2 = .passed

/-- How many trials were rejected. -/
def rejections (trials : List (α × Trial)) : Nat :=
  trials.countP fun x => x.2 = .rejected

@[simp] theorem passes_append (xs ys : List (α × Trial)) :
    passes (xs ++ ys) = passes xs + passes ys :=
  List.countP_append

@[simp] theorem rejections_append (xs ys : List (α × Trial)) :
    rejections (xs ++ ys) = rejections xs + rejections ys :=
  List.countP_append

/-- No trial failed. -/
def Clean (trials : List (α × Trial)) : Prop :=
  ∀ x ∈ trials, x.2 ≠ .failed

theorem Clean.append {xs ys : List (α × Trial)} (hx : Clean xs) (hy : Clean ys) :
    Clean (xs ++ ys) := by
  intro x hmem
  rcases List.mem_append.1 hmem with h | h
  · exact hx x h
  · exact hy x h

/-! ## The search -/

/-- Which trials a search makes, and how it ends. -/
inductive Searched (wanted tolerated : Nat) : List (α × Trial) → Ending α → Prop
  | finished {trials : List (α × Trial)} (clean : Clean trials) (passed : passes trials = wanted)
      (rejected : rejections trials ≤ tolerated) : Searched wanted tolerated trials .finished
  | gaveUp {trials : List (α × Trial)} (clean : Clean trials) (passed : passes trials < wanted)
      (rejected : rejections trials = tolerated + 1) : Searched wanted tolerated trials .gaveUp
  | failed (before : List (α × Trial)) (input : α) (clean : Clean before)
      (passed : passes before < wanted) (rejected : rejections before ≤ tolerated) :
      Searched wanted tolerated (before ++ [(input, .failed)]) (.failed input)

/-- A draw is a search for one input that passes. -/
def Draw.ending : Draw α → Ending α
  | .passed _ _ => .finished
  | .exhausted => .gaveUp
  | .failed input => .failed input

/-- One rejection in front of a search that tolerates one rejection less. -/
theorem Searched.cons_rejected {tolerated : Nat} {trials : List (α × Trial)} {ending : Ending α}
    (input : α) (h : Searched 1 tolerated trials ending) :
    Searched 1 (tolerated + 1) ((input, .rejected) :: trials) ending := by
  have one : Clean [(input, Trial.rejected)] := by simp [Clean]
  have counted (xs : List (α × Trial)) :
      passes ((input, .rejected) :: xs) = passes xs ∧
        rejections ((input, .rejected) :: xs) = rejections xs + 1 := by
    simp [passes, rejections]
  cases h with
  | finished clean passed rejected =>
    exact .finished (one.append clean) (by simp [counted, passed]) (by simp [counted, rejected])
  | gaveUp clean passed rejected =>
    exact .gaveUp (one.append clean) (by simp [counted, passed]) (by simp [counted, rejected])
  | failed before failing clean passed rejected =>
    exact .failed ((input, .rejected) :: before) failing (one.append clean)
      (by simp [counted, passed]) (by simp [counted, rejected])

/-- A search for one input that passes, and another search that tolerates what is left. -/
theorem Searched.append {wanted tolerated : Nat} {first trials : List (α × Trial)}
    {ending : Ending α} (clean : Clean first) (passed : passes first = 1)
    (rejected : rejections first ≤ tolerated)
    (h : Searched wanted (tolerated - rejections first) trials ending) :
    Searched (wanted + 1) tolerated (first ++ trials) ending := by
  cases h with
  | finished clean' passed' rejected' =>
    exact .finished (clean.append clean') (by simp; omega) (by simp; omega)
  | gaveUp clean' passed' rejected' =>
    exact .gaveUp (clean.append clean') (by simp; omega) (by simp; omega)
  | failed before failing clean' passed' rejected' =>
    -- The failure stands behind all clean trials, those of both searches.
    rw [← List.append_assoc]
    exact .failed _ failing (clean.append clean') (by simp; omega) (by simp; omega)

variable (test : α → StateM S Trial) (inputs : Nat → α)

theorem draw_run (tolerated number : Nat) (s : S) :
    (draw test inputs tolerated number).run s = match (test (inputs number)).run s with
      | (.passed, t) => (.passed tolerated (number + 1), t)
      | (.failed, t) => (.failed (inputs number), t)
      | (.rejected, t) =>
        match tolerated with
        | 0 => (.exhausted, t)
        | tolerated + 1 => (draw test inputs tolerated (number + 1)).run t := by
  rw [draw.eq_def]
  simp only [StateT.run_bind]
  rcases (test (inputs number)).run s with ⟨_ | _ | _, t⟩
  · rfl
  · cases tolerated <;> rfl
  · rfl

/-- What one draw does: it searches for one input that passes, and tolerates so much less afterwards
as it rejected. -/
theorem draw_searched (tolerated number : Nat) (s : S) :
    ∃ trials, Tried test s trials ((draw test inputs tolerated number).run s).2 ∧
      Searched 1 tolerated trials ((draw test inputs tolerated number).run s).1.ending ∧
      ∀ left next, ((draw test inputs tolerated number).run s).1 = .passed left next →
        left = tolerated - rejections trials := by
  -- A rejection uses up what is tolerated; anything else ends the draw.
  induction tolerated generalizing number s with
  | zero =>
    rw [draw_run]
    rcases tried : (test (inputs number)).run s with ⟨_ | _ | _, t⟩
    all_goals refine ⟨[(inputs number, _)], .cons tried (.nil t), ?_, by grind⟩
    · exact .finished (by simp [Clean]) rfl (Nat.zero_le _)
    · exact .gaveUp (by simp [Clean]) Nat.one_pos rfl
    · exact .failed [] _ (by simp [Clean]) Nat.one_pos (Nat.zero_le _)
  | succ tolerated ih =>
    rw [draw_run]
    rcases tried : (test (inputs number)).run s with ⟨_ | _ | _, t⟩
    · exact ⟨[(inputs number, .passed)], .cons tried (.nil t),
        .finished (by simp [Clean]) rfl (Nat.zero_le _), by grind [rejections]⟩
    · -- This trial stands in front of the search with one rejection less to tolerate.
      obtain ⟨trials, chain, searched, left⟩ := ih (number + 1) t
      exact ⟨(inputs number, .rejected) :: trials, .cons tried chain,
        searched.cons_rejected (inputs number), by grind [rejections]⟩
    · exact ⟨[(inputs number, .failed)], .cons tried (.nil t),
        .failed [] _ (by simp [Clean]) Nat.one_pos (Nat.zero_le _), by grind⟩

theorem search_run_succ (wanted tolerated number : Nat) (s : S) :
    (search test inputs (wanted + 1) tolerated number).run s =
      match (draw test inputs tolerated number).run s with
      | (.passed left next, t) => (search test inputs wanted left next).run t
      | (.exhausted, t) => (.gaveUp, t)
      | (.failed input, t) => (.failed input, t) := by
  rw [search.eq_def]
  simp only [StateT.run_bind]
  rcases (draw test inputs tolerated number).run s with ⟨_ | _ | _, t⟩ <;> rfl

theorem search_searched (wanted tolerated number : Nat) (s : S) :
    ∃ trials, Tried test s trials ((search test inputs wanted tolerated number).run s).2 ∧
      Searched wanted tolerated trials ((search test inputs wanted tolerated number).run s).1 := by
  induction wanted generalizing tolerated number s with
  | zero => exact ⟨[], .nil s, .finished (by simp [Clean]) rfl (Nat.zero_le _)⟩
  | succ wanted ih =>
    obtain ⟨first, chain, searched, left⟩ := draw_searched test inputs tolerated number s
    rw [search_run_succ]
    rcases drawn : (draw test inputs tolerated number).run s with ⟨_ | _ | input, t⟩
    all_goals rw [drawn] at chain searched left
    · -- The draw says how much it left to tolerate, and no more than that may be rejected later.
      obtain ⟨trials, rest, ended⟩ := ih _ _ t
      cases searched with
      | finished clean passed rejected =>
        refine ⟨first ++ trials, chain.append rest, .append clean passed rejected ?_⟩
        rw [← left _ _ rfl]
        exact ended
    · -- One draw that gives up has rejected too much for the whole search.
      cases searched with
      | gaveUp clean passed rejected =>
        exact ⟨first, chain, .gaveUp clean (by omega) rejected⟩
    · cases searched with
      | failed before _ clean passed rejected =>
        exact ⟨_, chain, .failed before _ clean (by omega) rejected⟩

/-! ## Shrinking -/

variable (shrinker : Shrinker α)

theorem shrink_run_succ (start : α) (attempts : Nat) (history : History α) (s : S) :
    (shrink test shrinker start (attempts + 1) history).run s =
      match shrinker.propose start history with
      | none => (shrinker.settle start history, s)
      | some candidate =>
        (shrink test shrinker start attempts
          ((candidate, ((test candidate).run s).1.isFailed) :: history)).run
          ((test candidate).run s).2 := by
  rw [shrink.eq_def]
  cases h : shrinker.propose start history <;> simp only [h] <;> rfl

/-- Shrinking only makes trials, whatever the shrinker proposes. -/
theorem shrink_tried (start : α) (attempts : Nat) (history : History α) (s : S) :
    ∃ trials, Tried test s trials ((shrink test shrinker start attempts history).run s).2 := by
  induction attempts generalizing history s with
  | zero => exact ⟨[], .nil s⟩
  | succ attempts ih =>
    rw [shrink_run_succ]
    -- The shrinker may stop of its own accord; otherwise the attempts bound it.
    cases proposed : shrinker.propose start history with
    | none => exact ⟨[], .nil s⟩
    | some candidate =>
      obtain ⟨trials, chain⟩ := ih ((candidate, ((test candidate).run s).1.isFailed) :: history)
        ((test candidate).run s).2
      exact ⟨(candidate, ((test candidate).run s).1) :: trials, .cons rfl chain⟩

/-! ## The whole exploration -/

/-- Which trials an exploration makes, and how it ends. -/
inductive Explored (limits : Limits) : List (α × Trial) → Ending α → Prop
  | finished {trials : List (α × Trial)} (clean : Clean trials)
      (passed : passes trials = limits.wanted) (rejected : rejections trials ≤ limits.tolerated) :
      Explored limits trials .finished
  | gaveUp {trials : List (α × Trial)} (clean : Clean trials)
      (passed : passes trials < limits.wanted)
      (rejected : rejections trials = limits.tolerated + 1) : Explored limits trials .gaveUp
  | failed {before : List (α × Trial)} (input : α) (shrunk : List (α × Trial)) (minimal : α)
      (clean : Clean before) (passed : passes before < limits.wanted)
      (rejected : rejections before ≤ limits.tolerated) :
      Explored limits (before ++ (input, .failed) :: shrunk) (.failed minimal)

theorem explore_run (limits : Limits) (s : S) :
    (explore limits shrinker inputs test).run s =
      match (search test inputs limits.wanted limits.tolerated 0).run s with
      | (.failed input, t) =>
        (.failed ((shrink test shrinker input shrinker.attempts []).run t).1,
          ((shrink test shrinker input shrinker.attempts []).run t).2)
      | (ending, t) => (ending, t) := by
  simp only [explore, StateT.run_bind]
  rcases (search test inputs limits.wanted limits.tolerated 0).run s with ⟨_ | _ | _, t⟩ <;> rfl

/-- Every exploration is a chain of trials that leads to its ending. -/
theorem explore_explored (limits : Limits) (s : S) :
    ∃ trials, Tried test s trials ((explore limits shrinker inputs test).run s).2 ∧
      Explored limits trials ((explore limits shrinker inputs test).run s).1 := by
  obtain ⟨trials, chain, searched⟩ :=
    search_searched test inputs limits.wanted limits.tolerated 0 s
  rw [explore_run]
  rcases found : (search test inputs limits.wanted limits.tolerated 0).run s with ⟨_ | _ | input, t⟩
  all_goals rw [found] at chain searched
  · cases searched with
    | finished clean passed rejected => exact ⟨trials, chain, .finished clean passed rejected⟩
  · cases searched with
    | gaveUp clean passed rejected => exact ⟨trials, chain, .gaveUp clean passed rejected⟩
  · cases searched with
    | failed before _ clean passed rejected =>
      -- Only here is there anything behind the search: the trials of the shrinker, of any ending.
      obtain ⟨shrunk, rest⟩ := shrink_tried test shrinker input shrinker.attempts [] t
      refine ⟨before ++ (input, .failed) :: shrunk, ?_, .failed _ _ _ clean passed rejected⟩
      rw [List.append_cons]
      exact chain.append rest

/-! ## Forgetting a part of the state of a test

The state of a test can hold more than its trials depend on, such as a log. These lemmas carry one
fact about a single trial through the draws, the search and the shrinking. -/

section Erasure

variable {T : Type} {state : T → S} {test' : α → StateM T Trial} {test : α → StateM S Trial}

theorem erases_draw (each : ∀ input, Erases state (test' input) (test input)) (inputs : Nat → α)
    (tolerated number : Nat) :
    Erases state (draw test' inputs tolerated number) (draw test inputs tolerated number) := by
  induction tolerated generalizing number with
  | zero =>
    rw [draw.eq_def, draw.eq_def]
    refine (each _).bind fun trial => ?_
    cases trial <;> exact .pure _
  | succ tolerated ih =>
    rw [draw.eq_def, draw.eq_def]
    refine (each _).bind fun trial => ?_
    cases trial with
    | passed => exact .pure _
    | rejected => exact ih (number + 1)
    | failed => exact .pure _

theorem erases_search (each : ∀ input, Erases state (test' input) (test input)) (inputs : Nat → α)
    (wanted tolerated number : Nat) :
    Erases state (search test' inputs wanted tolerated number)
      (search test inputs wanted tolerated number) := by
  induction wanted generalizing tolerated number with
  | zero => exact .pure _
  | succ wanted ih =>
    rw [search.eq_def, search.eq_def]
    refine (erases_draw each inputs tolerated number).bind fun drawn => ?_
    cases drawn with
    | passed tolerated next => exact ih tolerated next
    | exhausted => exact .pure _
    | failed input => exact .pure _

theorem erases_shrink (each : ∀ input, Erases state (test' input) (test input))
    (shrinker : Shrinker α) (start : α) (attempts : Nat) (history : History α) :
    Erases state (shrink test' shrinker start attempts history)
      (shrink test shrinker start attempts history) := by
  induction attempts generalizing history with
  | zero => exact .pure _
  | succ attempts ih =>
    intro t
    rw [shrink_run_succ, shrink_run_succ]
    cases shrinker.propose start history with
    | none => rfl
    | some candidate =>
      simp only [each candidate t]
      exact ih _ _

/-- An exploration sees nothing of the state of its test: what the test keeps there may be forgotten
before the exploration or after it. -/
theorem erases_explore (each : ∀ input, Erases state (test' input) (test input)) (limits : Limits)
    (shrinker : Shrinker α) (inputs : Nat → α) :
    Erases state (explore limits shrinker inputs test') (explore limits shrinker inputs test) := by
  refine (erases_search each inputs limits.wanted limits.tolerated 0).bind fun ending => ?_
  cases ending with
  | finished => exact .pure _
  | gaveUp => exact .pure _
  | failed input =>
    exact (erases_shrink each shrinker input shrinker.attempts []).bind fun _ => .pure _

end Erasure

end FormatConformance.Exploration
