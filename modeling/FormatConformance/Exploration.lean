/-!
# Exploration

A test is tried on one input after another until enough of them have passed. Inputs that the test
rejects do not count, and when there are too many of them the exploration gives up. The first input
that fails ends the search and is then shrunk: candidates are tried in its place, and the shrinker
settles on one of those that failed.

An exploration knows nothing of a test but what it makes of each input. A test that keeps accounts
keeps them in a state of its own, and it is called in shrinking as it is called in the search.
-/

namespace FormatConformance.Exploration

/-- What a test makes of one input. -/
inductive Trial
  | passed
  /-- The input does not count. -/
  | rejected
  | failed
  deriving DecidableEq, Repr

/-- Whether a trial failed. -/
def Trial.isFailed : Trial → Bool
  | failed => true
  | _ => false

/-- The bounds of the search for an input that fails. -/
structure Limits where
  /-- How many inputs have to pass. -/
  wanted : Nat
  /-- How many rejected inputs are tolerated. -/
  tolerated : Nat
  deriving DecidableEq, Repr

/-- How an exploration ended. -/
inductive Ending (α : Type)
  /-- As many inputs passed as were wanted. -/
  | finished
  /-- One more input was rejected than is tolerated. -/
  | gaveUp
  /-- An input failed, and this is the one to show. -/
  | failed (input : α)
  deriving DecidableEq, Repr

/-! ## Searching -/

/-- How the search for one input that counts ended. -/
inductive Draw (α : Type)
  /-- An input passed: how many may still be rejected, and the number of the next input. -/
  | passed (tolerated next : Nat)
  | exhausted
  | failed (input : α)
  deriving DecidableEq, Repr

variable {m : Type → Type} [Monad m] {α : Type}

/-- Tries inputs from a number on until one is not rejected. -/
def draw (test : α → m Trial) (inputs : Nat → α) : Nat → Nat → m (Draw α)
  | tolerated, number => do
    match ← test (inputs number) with
    | .passed => return .passed tolerated (number + 1)
    | .failed => return .failed (inputs number)
    | .rejected =>
      match tolerated with
      | 0 => return .exhausted
      | tolerated + 1 => draw test inputs tolerated (number + 1)

/-- Draws inputs until a number of them have passed: how that ended, with the first input that
failed if one did. -/
def search (test : α → m Trial) (inputs : Nat → α) : Nat → Nat → Nat → m (Ending α)
  | 0, _, _ => return .finished
  | wanted + 1, tolerated, number => do
    match ← draw test inputs tolerated number with
    | .passed tolerated next => search test inputs wanted tolerated next
    | .exhausted => return .gaveUp
    | .failed input => return .failed input

/-! ## Shrinking -/

/-- The candidates so far, the last one first, and whether they failed. -/
abbrev History (α : Type) := List (α × Bool)

/-- A way to find smaller inputs that fail. -/
structure Shrinker (α : Type) where
  /-- The next candidate in place of an input that failed, or none to stop. -/
  propose : α → History α → Option α
  /-- How many candidates are tried at most. -/
  attempts : Nat
  /-- The input to settle on. -/
  settle : α → History α → α
  /-- It is the first input or a candidate that failed. -/
  settle_failed : ∀ start history,
    settle start history = start ∨ (settle start history, true) ∈ history

/-- Tries candidates in place of an input that failed. -/
def shrink (test : α → m Trial) (shrinker : Shrinker α) (start : α) : Nat → History α → m α
  | 0, history => return shrinker.settle start history
  | attempts + 1, history =>
    match shrinker.propose start history with
    | none => return shrinker.settle start history
    | some candidate => do
      let trial ← test candidate
      shrink test shrinker start attempts ((candidate, trial.isFailed) :: history)

/-- Explores inputs by a test. -/
def explore (limits : Limits) (shrinker : Shrinker α) (inputs : Nat → α) (test : α → m Trial) :
    m (Ending α) := do
  match ← search test inputs limits.wanted limits.tolerated 0 with
  | .failed input => return .failed (← shrink test shrinker input shrinker.attempts [])
  | ending => return ending

/-! ## Greedy shrinking -/

/-- The smallest input known to fail: the last candidate that did. -/
def smallest (start : α) (history : History α) : α :=
  ((history.find? (·.2)).map (·.1)).getD start

/-- How many candidates were tried in vain since then. -/
def triedInVain (history : History α) : Nat :=
  (history.takeWhile fun h => !h.2).length

theorem smallest_failed (start : α) (history : History α) :
    smallest start history = start ∨ (smallest start history, true) ∈ history := by
  unfold smallest
  cases h : history.find? (·.2) with
  | none => exact .inl rfl
  | some found =>
    have failed : found.2 = true := by simpa using List.find?_some h
    exact .inr (by simpa [← failed] using List.mem_of_find?_eq_some h)

/-- Tries the smaller forms of the smallest input in turn, and goes on from the first that fails. -/
def Shrinker.greedy (attempts : Nat) (smaller : α → List α) : Shrinker α where
  propose start history := (smaller (smallest start history))[triedInVain history]?
  attempts := attempts
  settle := smallest
  settle_failed := smallest_failed

end FormatConformance.Exploration
