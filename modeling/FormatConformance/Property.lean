import FormatConformance.Adjudication
import FormatConformance.Exploration

/-!
# Properties

What is demanded of a subject on every case of an entry point: that it agrees with the reference,
or that it gives the same answer twice. A check of a property keeps both outcomes that it saw.
-/

namespace FormatConformance

/-- What is demanded. -/
inductive Demand
  /-- The sides agree. -/
  | differential
  /-- The subject answers a second time as it did the first time. -/
  | idempotence
  deriving DecidableEq, Repr

namespace Demand

/-- The demands in the order in which they are checked. -/
def all : List Demand :=
  [differential, idempotence]

/-- The name of a demand. -/
def name : Demand → String
  | differential => "differential"
  | idempotence => "idempotence"

end Demand

/-- A demand on the cases of an entry point. -/
structure Property where
  entry : EntryPoint
  demand : Demand
  deriving DecidableEq, Repr

/-- A check of a case with the outcomes that it saw. When the subject alone is asked, its first
answer stands to the left. -/
structure Checked where
  input : Case
  left : Outcome
  right : Outcome
  verdict : Verdict
  deriving DecidableEq, Repr

/-- The trial that a verdict is in an exploration. -/
def Verdict.trial : Verdict → Exploration.Trial
  | .agree => .passed
  | .discard _ => .rejected
  | .mismatch _ => .failed

namespace Property

/-- Both properties of each entry point, one entry point after the other. -/
def ofEntries (entries : List EntryPoint) : List Property :=
  entries.flatMap fun entry => Demand.all.map (⟨entry, ·⟩)

variable {σ : Type}

/-- Checks a case. -/
def check (sides : Sides σ) (demand : Demand) (c : Case) : Check σ Checked :=
  match demand with
  | .differential => do
    let o ← adjudicate sides c
    return ⟨c, o.reference.outcome, o.subject, o.verdict⟩
  | .idempotence => do
    let r ← checkIdempotent sides c
    return ⟨c, r.first, r.second, r.verdict⟩

end Property

end FormatConformance
