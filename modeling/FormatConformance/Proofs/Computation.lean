import FormatConformance.Sides

/-!
# Computations that may end in a fault

A check is a computation over a state that ends in a value or in a fault. This file says how such a
computation runs (`Check.run_bind`, `Check.ok_of_bind`), so that no other file opens the monad. It
says when a computation does what another one does but for a part of the state that the other one
does not have (`Erases`), and introduces chains of steps: a chain is what a loop did, one label for
each turn, with the state in which each turn left the next one.
-/

namespace FormatConformance

variable {S T α β : Type}

/-! ## Running

The monad of a check is opened here and nowhere else. A composition is told by how its first part
ends, and read backwards by what it ended in. -/

namespace Check

/-- The second computation starts in the state in which the first one ended, and not at all after a
fault. -/
theorem run_bind (x : Check S α) (f : α → Check S β) (s : S) :
    (x >>= f).run s = match x.run s with
      | (.ok a, t) => (f a).run t
      | (.error fault, t) => (.error fault, t) := by
  show (match x.run s with | (a, t) => ExceptT.bindCont f a t) = _
  rcases x.run s with ⟨a | a, t⟩ <;> rfl

theorem run_bind_of_ok {x : Check S α} {f : α → Check S β} {s t : S} {a : α}
    (h : x.run s = (.ok a, t)) : (x >>= f).run s = (f a).run t := by
  rw [run_bind, h]

theorem run_bind_of_error {x : Check S α} {f : α → Check S β} {s t : S} {fault : Fault}
    (h : x.run s = (.error fault, t)) : (x >>= f).run s = (.error fault, t) := by
  rw [run_bind, h]

/-- A composition that gives a value did so from a value of its first part. -/
theorem ok_of_bind {x : Check S α} {f : α → Check S β} {s u : S} {b : β}
    (h : (x >>= f).run s = (.ok b, u)) :
    ∃ a t, x.run s = (.ok a, t) ∧ (f a).run t = (.ok b, u) := by
  rw [run_bind] at h
  rcases hx : x.run s with ⟨fault | a, t⟩
  · rw [hx] at h
    cases h
  · rw [hx] at h
    exact ⟨a, t, rfl, h⟩

/-- A composition that ends in a fault has it from one of its parts. -/
theorem error_of_bind {x : Check S α} {f : α → Check S β} {s u : S} {fault : Fault}
    (h : (x >>= f).run s = (.error fault, u)) :
    x.run s = (.error fault, u) ∨
      ∃ a t, x.run s = (.ok a, t) ∧ (f a).run t = (.error fault, u) := by
  rw [run_bind] at h
  rcases hx : x.run s with ⟨found | a, t⟩
  · rw [hx] at h
    cases h
    exact .inl rfl
  · rw [hx] at h
    exact .inr ⟨a, t, rfl, h⟩

/-- What cannot end in a fault gives its value. -/
theorem run_lift (x : StateM S α) (s : S) :
    (ExceptT.lift x : Check S α).run s = (.ok (x.run s).1, (x.run s).2) := rfl

end Check

/-! ## Forgetting a part of the state -/

/-- The first computation does what the second one does, on a state of which the second one sees
only a part. -/
def Erases (state : T → S) (x : StateM T α) (y : StateM S α) : Prop :=
  ∀ t, y.run (state t) = ((x.run t).1, state (x.run t).2)

namespace Erases

variable {state : T → S}

protected theorem pure (a : α) : Erases state (pure a) (pure a) := fun _ => rfl

protected theorem bind {x : StateM T α} {y : StateM S α} {f : α → StateM T β} {g : α → StateM S β}
    (first : Erases state x y) (second : ∀ a, Erases state (f a) (g a)) :
    Erases state (x >>= f) (y >>= g) := by
  intro t
  rw [StateT.run_bind, first t]
  exact second _ _

/-- The same for computations that may end in a fault. -/
theorem bind_check {x : Check T α} {y : Check S α} {f : α → Check T β} {g : α → Check S β}
    (first : Erases state x.run y.run) (second : ∀ a, Erases state (f a).run (g a).run) :
    Erases state (x >>= f).run (y >>= g).run := by
  intro t
  have same : y.run (state t) = ((x.run t).1, state (x.run t).2) := first t
  show (y >>= g).run (state t) = (((x >>= f).run t).1, state ((x >>= f).run t).2)
  rw [Check.run_bind, Check.run_bind, same]
  rcases x.run t with ⟨fault | a, u⟩
  · -- A fault ends both, in states that belong together.
    rfl
  · exact second a u

end Erases

/-! ## Chains of steps

A loop is told by the list of its steps, each with the state before and behind it. Nothing is said
of how the loop was written, so chains of different loops can be put together. -/

/-- Labelled steps one after the other, each from the state in which the one before it ended. -/
inductive Chain (step : S → α → S → Prop) : S → List α → S → Prop
  | nil (s : S) : Chain step s [] s
  | cons {s t u : S} {a : α} {rest : List α} :
      step s a t → Chain step t rest u → Chain step s (a :: rest) u

namespace Chain

variable {step : S → α → S → Prop} {s t u : S} {as bs : List α}

theorem append (first : Chain step s as t) (second : Chain step t bs u) :
    Chain step s (as ++ bs) u := by
  -- The first chain is taken apart, so that its last state meets the second one.
  induction first with
  | nil s => exact second
  | cons h _ ih => exact .cons h (ih second)

/-- What each step says of its label holds of every label. -/
theorem forall_mem {P : α → Prop} (each : ∀ s a t, step s a t → P a) (h : Chain step s as t) :
    ∀ a ∈ as, P a := by
  induction h with
  | nil s => simp
  | cons h _ ih =>
    rintro a (_ | ⟨_, later⟩)
    · exact each _ _ _ h
    · exact ih a later

end Chain

end FormatConformance
