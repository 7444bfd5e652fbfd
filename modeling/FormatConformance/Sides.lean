import FormatConformance.Case
import FormatConformance.Fault
import FormatConformance.Instant
import FormatConformance.Reference.Answer

/-!
# The two sides

The reference and the subject as two parties that share a state, so that an answer may depend on
everything asked before. A check is a computation over that state which may end in a fault; the
state is kept in either case.
-/

namespace FormatConformance

/-- A computation over the state of the sides that may end in a fault. -/
abbrev Check (σ : Type) := ExceptT Fault (StateM σ)

/-- The reference and the subject over a shared state. -/
structure Sides (σ : Type) where
  /-- The reference renders a case. -/
  format : Case → StateM σ (Except ReferenceFault Reference.Answer)
  /-- The subject renders a case. -/
  invoke : Case → StateM σ (Except MarshalFault Outcome)
  /-- The subject says whether it rejects a case. -/
  probe : Case → StateM σ (Except MarshalFault Bool)

namespace Sides

variable {σ : Type}

/-- Asks the reference. -/
def askReference (sides : Sides σ) (c : Case) : Check σ Reference.Answer :=
  ExceptT.mk do return (← sides.format c).mapError .reference

/-- Asks the subject to render. -/
def askSubject (sides : Sides σ) (c : Case) : Check σ Outcome :=
  ExceptT.mk do return (← sides.invoke c).mapError .marshal

/-- Asks the subject whether it rejects. -/
def askProbe (sides : Sides σ) (c : Case) : Check σ Bool :=
  ExceptT.mk do return (← sides.probe c).mapError .marshal

end Sides

/-! ## Exchanges on record

What a check did to the sides cannot be told from its result. So the sides can be given a record
beside their state, to which every call is added with what came back. What of it is kept is for the
record to say: the calls alone, all that passed, or nothing.
-/

/-- A call to one of the sides. -/
inductive Call
  | format
  | probe
  | invoke
  deriving DecidableEq, Repr

/-- The name of a call in a trace. -/
def Call.name : Call → String
  | .format => "format"
  | .probe => "probe"
  | .invoke => "invoke"

/-- A call to a side with the case that it was made with and what came back. -/
inductive Exchange
  | formatted (input : Case) (answer : Except ReferenceFault Reference.Answer)
  | probed (input : Case) (answer : Except MarshalFault Bool)
  | invoked (input : Case) (answer : Except MarshalFault Outcome)

/-- The call of an exchange. -/
def Exchange.call : Exchange → Call
  | formatted .. => .format
  | probed .. => .probe
  | invoked .. => .invoke

/-- A state with a record beside it. -/
structure Recorded (σ ρ : Type) where
  state : σ
  record : ρ

section Recording

variable {σ ρ α : Type}

/-- A computation beside a record, to which its result is added. -/
def recording (add : α → ρ → ρ) (ask : StateM σ α) : StateM (Recorded σ ρ) α :=
  fun s =>
    let (answer, state) := ask.run s.state
    (answer, ⟨state, add answer s.record⟩)

/-- The same sides beside a record, to which every exchange is added. -/
def Sides.recorded (sides : Sides σ) (add : Exchange → ρ → ρ) : Sides (Recorded σ ρ) where
  format c := recording (fun answer => add (.formatted c answer)) (sides.format c)
  invoke c := recording (fun answer => add (.invoked c answer)) (sides.invoke c)
  probe c := recording (fun answer => add (.probed c answer)) (sides.probe c)

/-- The same clock beside a record, which has nothing to say of the time. -/
def Clock.beside (clock : Clock σ) : Clock (Recorded σ ρ) where
  wall := recording (fun _ record => record) clock.wall
  ticks := recording (fun _ record => record) clock.ticks

end Recording

end FormatConformance
