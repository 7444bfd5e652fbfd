import FormatConformance.Property

/-!
# Tallies

What is kept of the checks of a property beside the exploration that asks for them. The counts and
the first mismatch are for the result. A fault is kept because an exploration has no word for it: it
takes a check that ended in a fault for a failure and goes on, and the tally remembers that nothing
more may be checked.
-/

namespace FormatConformance.Run

/-- The bookkeeping of a property. -/
structure Tally where
  /-- The cases that agreed before one failed. -/
  passed : UInt64
  /-- The cases that were discarded before one failed. -/
  discarded : UInt64
  firstFailure : Option Mismatch
  /-- The fault in which a check ended. -/
  fatal : Option Fault
  deriving DecidableEq, Repr

namespace Tally

/-- The tally before the first check. -/
def empty : Tally :=
  ⟨0, 0, none, none⟩

/-- Whether a mismatch was found, so that what is checked now are candidates for a smaller one. -/
def shrinking (t : Tally) : Bool :=
  t.firstFailure.isSome

/-- The tally after a check. -/
def record (t : Tally) : Except Fault Verdict → Tally
  | .ok .agree => if t.shrinking then t else { t with passed := t.passed + 1 }
  | .ok (.discard _) => if t.shrinking then t else { t with discarded := t.discarded + 1 }
  | .ok (.mismatch m) => if t.shrinking then t else { t with firstFailure := some m }
  | .error fault => { t with fatal := some fault }

end Tally

/-- The trial that a check is in an exploration. -/
def trialOf : Except Fault Verdict → Exploration.Trial
  | .ok verdict => verdict.trial
  | .error _ => .failed

end FormatConformance.Run
