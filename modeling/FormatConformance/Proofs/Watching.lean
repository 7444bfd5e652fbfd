import FormatConformance.Log.Entry
import FormatConformance.Property
import FormatConformance.Proofs.Adjudication
import FormatConformance.Scenario

/-!
# Checks that stop at a fault

Which calls a check makes, and which of them ended in a fault, cannot be told from its result. Here
the record beside the state is one of actions: every exchange with a side is one, and so is every
entry that is written to a log. `StopsAtFault` is what all checks have in common: with the record
they do what they do without it, and the first action that ends in a fault is the last one and gives
the result. Of an adjudication this is read off its histories (`Adjudicated.ends`), and it is passed
on from the parts of a computation to the whole (`StopsAtFault.bind`).
-/

namespace FormatConformance

variable {σ α β ε : Type}

/-! ## Actions -/

/-- The fault of a result. -/
def faultOf : Except Fault α → Option Fault
  | .ok _ => none
  | .error fault => some fault

/-- The fault in which an exchange ended. -/
def Exchange.fault? : Exchange → Option Fault
  | formatted _ answer => faultOf (answer.mapError .reference)
  | probed _ answer => faultOf (answer.mapError .marshal)
  | invoked _ answer => faultOf (answer.mapError .marshal)

/-- What a computation does outside itself. -/
inductive Action
  /-- A side was called. -/
  | asked (made : Exchange)
  /-- An entry was written to the log, or this ended in a fault. -/
  | wrote (entry : Log.Entry) (fault : Option Fault)

/-- The fault in which an action ended. -/
def Action.fault? : Action → Option Fault
  | asked made => made.fault?
  | wrote _ fault => fault

/-- Actions without a fault, or with a fault in the last one alone. -/
inductive Ends : List Action → Option Fault → Prop
  | nil : Ends [] none
  | last {a : Action} {fault : Fault} (faulted : a.fault? = some fault) : Ends [a] (some fault)
  | cons {a : Action} {later : List Action} {fault : Option Fault} (sound : a.fault? = none)
    (ends : Ends later fault) : Ends (a :: later) fault

theorem ends_singleton (a : Action) : Ends [a] a.fault? := by
  cases faulted : a.fault? with
  | none => exact .cons faulted .nil
  | some fault => exact .last faulted

/-- Actions may follow as long as there was no fault. -/
theorem Ends.append {xs ys : List Action} {fault : Option Fault} (hx : Ends xs none)
    (hy : Ends ys fault) : Ends (xs ++ ys) fault := by
  induction xs with
  | nil => exact hy
  | cons a xs ih =>
    cases hx with
    | cons sound rest => exact .cons sound (ih rest)

/-! ## Computations that stop -/

/-- A state with the actions so far, in order. -/
abbrev Watched (σ : Type) := Recorded σ (List Action)

/-- The record goes on from one state to another with some actions that end in this way. -/
def Adds (s : Watched σ) (fault : Option Fault) (t : Watched σ) : Prop :=
  ∃ actions, t.record = s.record ++ actions ∧ Ends actions fault

namespace Adds

variable {s t u : Watched σ} {fault : Option Fault}

protected theorem refl (s : Watched σ) : Adds s none s :=
  ⟨[], (List.append_nil _).symm, .nil⟩

protected theorem trans (first : Adds s none t) (second : Adds t fault u) : Adds s fault u := by
  obtain ⟨xs, hx, fine⟩ := first
  obtain ⟨ys, hy, ends⟩ := second
  exact ⟨xs ++ ys, by rw [hy, hx, List.append_assoc], fine.append ends⟩

end Adds

/-- With its actions on record a computation does what it does without, and the first action that
ends in a fault is the last action, and its fault the result. -/
structure StopsAtFault (x : Check (Watched σ) α) (y : Check σ α) : Prop where
  erases : Erases Recorded.state x.run y.run
  adds : ∀ s, Adds s (faultOf (x.run s).1) (x.run s).2

namespace StopsAtFault

theorem adds_of_run {x : Check (Watched σ) α} {y : Check σ α} (h : StopsAtFault x y)
    {s t : Watched σ} {result : Except Fault α} (ran : x.run s = (result, t)) :
    Adds s (faultOf result) t := by
  have added : Adds s (faultOf (x.run s).1) (x.run s).2 := h.adds s
  rw [ran] at added
  exact added

protected theorem pure (a : α) : StopsAtFault (pure a : Check (Watched σ) α) (pure a) where
  erases := .pure _
  adds s := .refl s

protected theorem bind {x : Check (Watched σ) α} {y : Check σ α} {f : α → Check (Watched σ) β}
    {g : α → Check σ β} (first : StopsAtFault x y) (second : ∀ a, StopsAtFault (f a) (g a)) :
    StopsAtFault (x >>= f) (y >>= g) where
  erases := first.erases.bind_check fun a => (second a).erases
  adds s := by
    rw [Check.run_bind]
    rcases ran : x.run s with ⟨fault | a, t⟩
    -- Behind a fault there is no second part that could add anything.
    · exact first.adds_of_run ran
    · exact (first.adds_of_run ran).trans ((second a).adds t)

/-- What goes on beside the record is no action. -/
theorem beside (ask : StateM σ α) :
    StopsAtFault (ExceptT.lift (recording (fun _ actions => actions) ask) : Check (Watched σ) α)
      (ExceptT.lift ask) where
  erases _ := rfl
  adds s := .refl s

/-- What is put down with its fault is one action. -/
theorem action {act : Except ε α → Action} {wrap : ε → Fault}
    (kept : ∀ answer, (act answer).fault? = faultOf (answer.mapError wrap))
    (ask : StateM σ (Except ε α)) :
    StopsAtFault
      (ExceptT.mk do
        return (← recording (fun answer actions => actions ++ [act answer]) ask).mapError wrap)
      (ExceptT.mk do return (← ask).mapError wrap) where
  erases _ := rfl
  adds s := by
    refine ⟨[act (ask.run s.state).1], rfl, ?_⟩
    have single := ends_singleton (act (ask.run s.state).1)
    rw [kept] at single
    exact single

end StopsAtFault

/-! ## Sides on record -/

/-- Sides that put down every exchange as an action. -/
def Sides.watched (sides : Sides σ) : Sides (Watched σ) :=
  sides.recorded fun made actions => actions ++ [.asked made]

/-- A computation stops at a fault when its exchanges do. -/
theorem StopsAtFault.of_transcribes {x : Check (Watched σ) α} {y : Check σ α}
    {relation : List Exchange → Except Fault α → Prop}
    (transcribes : Transcribes (fun made actions => actions ++ [.asked made]) x y relation)
    (ends : ∀ history result, relation history result →
      Ends (history.map .asked) (faultOf result)) : StopsAtFault x y where
  -- The actions of the computation are its exchanges, and these end as its result does.
  erases s := by
    obtain ⟨history, result, t, plain, recorded, -⟩ := transcribes s.state
    have same : x.run s = (result, ⟨t, extended _ s.record history⟩) := recorded s.record
    show y.run s.state = ((x.run s).1, (x.run s).2.state)
    rw [same, plain]
  adds s := by
    obtain ⟨history, result, t, -, recorded, related⟩ := transcribes s.state
    have same : x.run s = (result, ⟨t, extended _ s.record history⟩) := recorded s.record
    rw [same]
    exact ⟨history.map .asked, extended_concat _ _ _, ends history result related⟩

/-- Each history of an adjudication stops at its first fault. -/
theorem Adjudicated.ends {c : Case} {history : List Exchange} {result : Except Fault Observation}
    (h : Adjudicated c history result) : Ends (history.map .asked) (faultOf result) := by
  cases h with
  | referenceFault => exact .last rfl
  | covered => exact .cons rfl .nil
  | probeFault => exact .cons rfl (.last rfl)
  | bothReject => exact .cons rfl (.cons rfl .nil)
  | acceptingFault => exact .cons rfl (.cons rfl (.last rfl))
  | accepts => exact .cons rfl (.cons rfl (.cons rfl .nil))
  | renderingFault => exact .cons rfl (.last rfl)
  | rejects => exact .cons rfl (.cons rfl .nil)
  | bothRender => exact .cons rfl (.cons rfl .nil)
  | differ => exact .cons rfl (.cons rfl .nil)

theorem Repeated.ends {c : Case} {history : List Exchange} {result : Except Fault Rerun}
    (h : Repeated c history result) : Ends (history.map .asked) (faultOf result) := by
  cases h with
  | firstFault => exact .last rfl
  | secondFault => exact .cons rfl (.last rfl)
  | both => exact .cons rfl (.cons rfl .nil)

variable (sides : Sides σ) (c : Case)

theorem stopsAtFault_adjudicate :
    StopsAtFault (adjudicate sides.watched c) (adjudicate sides c) :=
  .of_transcribes (transcribes_adjudicate _ sides c) fun _ _ => Adjudicated.ends

theorem stopsAtFault_propertyCheck (demand : Demand) :
    StopsAtFault (Property.check sides.watched demand c) (Property.check sides demand c) := by
  cases demand with
  | differential => exact (stopsAtFault_adjudicate sides c).bind fun _ => .pure _
  | idempotence =>
    -- Both calls belong to one demand, so the pair is looked at and not each call alone.
    have asked_twice : StopsAtFault (checkIdempotent sides.watched c) (checkIdempotent sides c) :=
      .of_transcribes (transcribes_checkIdempotent _ sides c) fun _ _ => Repeated.ends
    exact asked_twice.bind fun _ => .pure _

/-- Scenarios are verified in order, so what holds of each adjudication holds of the table. -/
theorem stopsAtFault_verifyAll (table : List Scenario) :
    StopsAtFault (Scenario.verifyAll sides.watched table) (Scenario.verifyAll sides table) := by
  have each : StopsAtFault (Scenario.verifyEach sides.watched table)
      (Scenario.verifyEach sides table) := by
    induction table with
    | nil => exact .pure _
    | cons s rest ih =>
      refine StopsAtFault.bind ?_ fun _ => ih.bind fun _ => .pure _
      exact (stopsAtFault_adjudicate sides s.input).bind fun _ => .pure _
  exact each.bind fun _ => .pure _

end FormatConformance
