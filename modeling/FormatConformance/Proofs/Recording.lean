import FormatConformance.Proofs.Computation
import Mathlib.Data.List.Basic

/-!
# Computations on record

With a record beside their state, sides add every exchange to it, whatever kind of record it is.
`Transcribes` carries a computation's exchanges along with it: with and without a record it does the
same, the record grows by these exchanges and by nothing else, and they stand in some relation to
the result. It has one rule for a call with what stands behind it, and one for two computations in a
row. A record that keeps everything (`Sides.transcribed`), one that keeps the faults and one that
keeps nothing are then instances: what is shown of the exchanges of a computation is shown for all
of them.
-/

namespace FormatConformance

variable {σ ρ α β ε : Type}

/-! ## Records -/

/-- A record after some exchanges. -/
def extended (add : Exchange → ρ → ρ) (record : ρ) (history : List Exchange) : ρ :=
  history.foldl (fun record made => add made record) record

@[simp] theorem extended_nil (add : Exchange → ρ → ρ) (record : ρ) :
    extended add record [] = record := rfl

@[simp] theorem extended_cons (add : Exchange → ρ → ρ) (record : ρ) (made : Exchange)
    (later : List Exchange) :
    extended add record (made :: later) = extended add (add made record) later := rfl

theorem extended_append (add : Exchange → ρ → ρ) (record : ρ) (history later : List Exchange) :
    extended add record (history ++ later) = extended add (extended add record history) later :=
  List.foldl_append

/-- A record of which exchanges are no part. -/
theorem extended_fixed (record : ρ) (history : List Exchange) :
    extended (fun _ record => record) record history = record :=
  List.foldl_fixed history

/-- A record that keeps every exchange in some form. -/
theorem extended_concat (keep : Exchange → α) (earlier : List α) (history : List Exchange) :
    extended (fun made items => items ++ [keep made]) earlier history =
      earlier ++ history.map keep := by
  induction history generalizing earlier with
  | nil => exact (List.append_nil earlier).symm
  | cons made later ih =>
    rw [extended_cons, ih, List.map_cons, List.append_assoc, List.singleton_append]

/-- The same sides with the history of their exchanges beside their state. -/
def Sides.transcribed (sides : Sides σ) : Sides (Recorded σ (List Exchange)) :=
  sides.recorded fun made history => history ++ [made]

theorem extended_transcribed (earlier history : List Exchange) :
    extended (fun made history => history ++ [made]) earlier history = earlier ++ history := by
  have kept := extended_concat id earlier history
  rwa [List.map_id] at kept

/-! ## The exchanges of a computation -/

/-- From every state the first computation does what the second one does, and the exchanges that it
adds to the record stand in a relation to the result. -/
def Transcribes (add : Exchange → ρ → ρ) (x : Check (Recorded σ ρ) α) (y : Check σ α)
    (relation : List Exchange → Except Fault α → Prop) : Prop :=
  ∀ s, ∃ history result t, y.run s = (result, t) ∧
    (∀ record, x.run ⟨s, record⟩ = (result, ⟨t, extended add record history⟩)) ∧
    relation history result

namespace Transcribes

variable {add : Exchange → ρ → ρ}

protected theorem pure {relation : List Exchange → Except Fault α → Prop} {a : α}
    (holds : relation [] (.ok a)) :
    Transcribes add (pure a : Check (Recorded σ ρ) α) (pure a) relation :=
  fun s => ⟨[], .ok a, s, rfl, fun _ => rfl, holds⟩

/-- A call and what stands behind it. After a fault the call is all that is added; after an answer,
the call and what the computation with the answer adds. -/
theorem call_bind {note : Except ε α → Exchange} {wrap : ε → Fault} {ask : StateM σ (Except ε α)}
    {f : α → Check (Recorded σ ρ) β} {g : α → Check σ β}
    {relation : List Exchange → Except Fault β → Prop}
    (faults : ∀ cause, relation [note (.error cause)] (.error (wrap cause)))
    (goesOn : ∀ a, Transcribes add (f a) (g a) fun later result =>
      relation (note (.ok a) :: later) result) :
    Transcribes add
      (ExceptT.mk (do return (← recording (fun a => add (note a)) ask).mapError wrap) >>= f)
      (ExceptT.mk (do return (← ask).mapError wrap) >>= g) relation := by
  intro s
  -- With and without the record the call gives the same answer in the same state.
  have asked : (ExceptT.mk (do return (← ask).mapError wrap) : Check σ α).run s =
      ((ask.run s).1.mapError wrap, (ask.run s).2) := rfl
  have noted (record : ρ) :
      (ExceptT.mk (do return (← recording (fun a => add (note a)) ask).mapError wrap) :
          Check (Recorded σ ρ) α).run ⟨s, record⟩ =
        ((ask.run s).1.mapError wrap, ⟨(ask.run s).2, add (note (ask.run s).1) record⟩) := rfl
  -- A fault ends both computations here; an answer is handed to the rest of both.
  rcases answer : ask.run s with ⟨cause | a, t⟩
  · rw [answer] at asked noted
    exact ⟨[note (.error cause)], .error (wrap cause), t, Check.run_bind_of_error asked,
      fun record => Check.run_bind_of_error (noted record), faults cause⟩
  · rw [answer] at asked noted
    obtain ⟨later, result, u, plain, recorded, related⟩ := goesOn a t
    refine ⟨note (.ok a) :: later, result, u, ?_, fun record => ?_, related⟩
    · rw [Check.run_bind_of_ok asked, plain]
    · rw [Check.run_bind_of_ok (noted record), recorded, extended_cons]

/-- Two computations one after the other. The exchanges of the second one come behind those of the
first, and a fault of the first one is all there is. -/
protected theorem bind {x : Check (Recorded σ ρ) α} {y : Check σ α}
    {f : α → Check (Recorded σ ρ) β} {g : α → Check σ β}
    {first : List Exchange → Except Fault α → Prop}
    {relation : List Exchange → Except Fault β → Prop} (start : Transcribes add x y first)
    (faults : ∀ history fault, first history (.error fault) → relation history (.error fault))
    (goesOn : ∀ history a, first history (.ok a) → Transcribes add (f a) (g a) fun later result =>
      relation (history ++ later) result) :
    Transcribes add (x >>= f) (y >>= g) relation := by
  intro s
  obtain ⟨history, result, t, plain, recorded, related⟩ := start s
  cases result with
  | error fault =>
    exact ⟨history, .error fault, t, Check.run_bind_of_error plain,
      fun record => Check.run_bind_of_error (recorded record), faults history fault related⟩
  | ok a =>
    obtain ⟨later, result, u, plain', recorded', related'⟩ := goesOn history a related t
    refine ⟨history ++ later, result, u, ?_, fun record => ?_, related'⟩
    · rw [Check.run_bind_of_ok plain, plain']
    · rw [Check.run_bind_of_ok (recorded record), recorded', extended_append]

/-- The second computation of a row that can neither fault nor call. -/
theorem map {x : Check (Recorded σ ρ) α} {y : Check σ α} (h : α → β)
    {first : List Exchange → Except Fault α → Prop}
    {relation : List Exchange → Except Fault β → Prop} (start : Transcribes add x y first)
    (faults : ∀ history fault, first history (.error fault) → relation history (.error fault))
    (gives : ∀ history a, first history (.ok a) → relation history (.ok (h a))) :
    Transcribes add (x >>= fun a => pure (h a)) (y >>= fun a => pure (h a)) relation := by
  refine start.bind faults fun history a related => .pure ?_
  rw [List.append_nil]
  exact gives history a related

end Transcribes

end FormatConformance
