import Mathlib.Algebra.GroupWithZero.Nat
import FormatConformance.Proofs.Subject.Marshalling
import FormatConformance.Subject.Echo

/-!
# What the calling convention does not carry

There are three reasons why an input never reaches the library, and a fixed order in which they are
looked for: a NUL in the template, an argument of another shape, a NUL in the string argument.
`Undeliverable` lists them with the fault that each ends in, and `marshal_eq_error_iff` says that
this is what marshalling refuses. A NUL is one byte and no part of a longer character, so its place
among the bytes is the size of the text in front of it (`firstNul?_eq_some_iff`).

That the library is not called then cannot be told from a library that only answers. `Exports` are
those of a library that may change a state with every call, and a library that writes its calls down
(`Library.watched`) is one of them.
-/

namespace FormatConformance.Subject

open Text (bytesOf utf8)

variable {σ : Type} {entry : EntryPoint} {template : String} {argument : Argument}
  {fault : MarshalFault}

/-! ## The place of a NUL -/

/-- The bytes of UTF-8 in front of the first NUL of a text. -/
def FirstNul (text : String) (position : Nat) : Prop :=
  ∃ before after, text.toList = before ++ '\x00' :: after ∧ '\x00' ∉ before ∧
    position = (before.map Char.utf8Size).sum

theorem length_utf8 (text : List Char) : (utf8 text).length = (text.map Char.utf8Size).sum := by
  simp [utf8, List.length_flatMap]

theorem firstNul?_of_firstNul {text : String} {position : Nat} (first : FirstNul text position) :
    firstNul? (bytesOf text) = some position := by
  obtain ⟨before, after, parts, clean, rfl⟩ := first
  have bytes : bytesOf text = utf8 before ++ 0 :: utf8 after := by
    rw [bytesOf, parts, Text.utf8_append, Text.utf8_cons_of_ascii (by decide)]
    rfl
  -- Before the first NUL no character has a NUL among its bytes.
  have none_before : (utf8 before).findIdx? (· = 0) = none := by
    have no_nul : firstNul? (bytesOf (String.ofList before)) = none :=
      firstNul?_eq_none_iff.2 (by simpa using clean)
    rwa [firstNul?, bytesOf, String.toList_ofList] at no_nul
  rw [firstNul?, bytes, List.findIdx?_append, none_before, ← length_utf8, List.findIdx?_cons]
  simp

theorem firstNul?_eq_some_iff {text : String} {position : Nat} :
    firstNul? (bytesOf text) = some position ↔ FirstNul text position := by
  constructor
  · intro found
    have nul : '\x00' ∈ text.toList := by
      by_contra clean
      rw [firstNul?_eq_none_iff.2 clean] at found
      cases found
    -- There is a first NUL, and the position that was found can only be its.
    obtain ⟨before, after, parts, clean⟩ := List.eq_append_cons_of_mem nul
    have first : FirstNul text (before.map Char.utf8Size).sum :=
      ⟨before, after, parts, clean, rfl⟩
    rw [firstNul?_of_firstNul first, Option.some.injEq] at found
    exact found ▸ first
  · exact firstNul?_of_firstNul

/-! ## Refusals -/

/-- The inputs that the calling convention of an entry point cannot carry, with the fault. A reason
counts only where none stands before it. -/
inductive Undeliverable (entry : EntryPoint) (template : String) (argument : Argument) :
    MarshalFault → Prop
  | template {position : Nat} (first : FirstNul template position) :
      Undeliverable entry template argument (.interiorNul "template" position)
  | shape (template_clean : '\x00' ∉ template.toList) (other : argument.entryPoint ≠ entry) :
      Undeliverable entry template argument (.shape entry.symbol argument.kindName)
  | value {value : String} {position : Nat} (template_clean : '\x00' ∉ template.toList)
      (shape : argument.entryPoint = entry) (held : argument = .text value)
      (first : FirstNul value position) :
      Undeliverable entry template argument (.interiorNul "string argument" position)

theorem marshalText_eq_error_iff {what text : String} :
    marshalText what text = .error fault ↔
      ∃ position, FirstNul text position ∧ fault = .interiorNul what position := by
  simp only [← firstNul?_eq_some_iff, marshalText]
  cases firstNul? (bytesOf text) with
  | none => simp
  | some position => simp [eq_comm]

theorem marshalArgument_eq_error_iff :
    marshalArgument entry argument = .error fault ↔
      argument.entryPoint ≠ entry ∧ fault = .shape entry.symbol argument.kindName ∨
      argument.entryPoint = entry ∧ ∃ value position, argument = .text value ∧
        FirstNul value position ∧ fault = .interiorNul "string argument" position := by
  unfold marshalArgument
  split_ifs with shape
  -- Of the arguments with the right shape only a string can be refused.
  · cases argument with
    | text value => simp [map_eq_error_iff, marshalText_eq_error_iff, shape]
    | _ => simp [shape]
  · simp [shape, eq_comm]

/-- Marshalling refuses what cannot be delivered, for the first of the reasons that there are. -/
theorem marshal_eq_error_iff :
    marshal entry template argument = .error fault ↔
      Undeliverable entry template argument fault := by
  constructor
  · intro refused
    obtain template_refused | ⟨bytes, carried, behind⟩ := bind_eq_error_iff.1 refused
    · obtain ⟨position, first, rfl⟩ := marshalText_eq_error_iff.1 template_refused
      exact .template first
    · have clean := (marshalText_eq_ok_iff.1 carried).1
      obtain argument_refused | ⟨native, -, impossible⟩ := bind_eq_error_iff.1 behind
      · obtain ⟨other, rfl⟩ | ⟨shape, value, position, held, first, rfl⟩ :=
          marshalArgument_eq_error_iff.1 argument_refused
        · exact .shape clean other
        · exact .value clean shape held first
      · cases impossible
  · -- The argument is looked at only when the template is carried.
    have behind_template (clean : '\x00' ∉ template.toList)
        (refused : marshalArgument entry argument = .error fault) :
        marshal entry template argument = .error fault :=
      bind_eq_error_iff.2 (.inr ⟨_, marshalText_eq_ok_iff.2 ⟨clean, rfl⟩,
        bind_eq_error_iff.2 (.inl refused)⟩)
    rintro (first | ⟨clean, other⟩ | ⟨clean, shape, held, first⟩)
    · exact bind_eq_error_iff.2 (.inl (marshalText_eq_error_iff.2 ⟨_, first, rfl⟩))
    · exact behind_template clean (marshalArgument_eq_error_iff.2 (.inl ⟨other, rfl⟩))
    · exact behind_template clean
        (marshalArgument_eq_error_iff.2 (.inr ⟨shape, _, _, held, first, rfl⟩))

/-! ## Libraries with effects -/

/-- The exports of a library that may keep a state from one call to the next. -/
structure Exports (σ : Type) where
  probe : EntryPoint → Bytes → Native → StateM σ Bool
  render : EntryPoint → Bytes → Native → StateM σ (Option Bytes)

namespace Exports

/-- Asks the library whether it rejects an input. -/
def askProbe (x : Exports σ) (entry : EntryPoint) (template : String) (argument : Argument) :
    StateM σ (Except MarshalFault Bool) :=
  match marshal entry template argument with
  | .error fault => return .error fault
  | .ok (template, native) => return .ok (← x.probe entry template native)

/-- The outcome of an input in the form of the calling convention. -/
def call (x : Exports σ) (entry : EntryPoint) (template : Bytes) (native : Native) :
    StateM σ Outcome := do
  if ← x.probe entry template native then
    return .failure (entry.errorSymbol ++ " reported an error")
  match ← x.render entry template native with
  | none => return .failure (entry.symbol ++ " returned null")
  | some text => return .success (text.takeWhile (· ≠ 0))

/-- Has the library render an input. -/
def invoke (x : Exports σ) (entry : EntryPoint) (template : String) (argument : Argument) :
    StateM σ (Except MarshalFault Outcome) :=
  match marshal entry template argument with
  | .error fault => return .error fault
  | .ok (template, native) => return .ok (← x.call entry template native)

variable (x : Exports σ) (s : σ)

theorem askProbe_of_undeliverable (refused : Undeliverable entry template argument fault) :
    (x.askProbe entry template argument).run s = (.error fault, s) := by
  rw [askProbe, marshal_eq_error_iff.2 refused]
  rfl

theorem invoke_of_undeliverable (refused : Undeliverable entry template argument fault) :
    (x.invoke entry template argument).run s = (.error fault, s) := by
  rw [invoke, marshal_eq_error_iff.2 refused]
  rfl

end Exports

/-- A call into a library. -/
inductive ForeignCall
  | probe (entry : EntryPoint) (template : Bytes) (native : Native)
  | render (entry : EntryPoint) (template : Bytes) (native : Native)
  deriving DecidableEq, Repr

/-- A library that writes its calls down, in the order in which they are made. -/
def Library.watched (library : Library) : Exports (List ForeignCall) where
  probe entry template native := fun calls =>
    (library.probe entry template native, calls ++ [.probe entry template native])
  render entry template native := fun calls =>
    (library.render entry template native, calls ++ [.render entry template native])

namespace Bridge

variable (b : Bridge)

/-- The calls that the outcome of an input takes: the probe is asked, and the formatter behind a
probe that does not reject. -/
def foreignCalls (entry : EntryPoint) (template : Bytes) (native : Native) : List ForeignCall :=
  .probe entry template native ::
    if b.library.probe entry template native then [] else [.render entry template native]

theorem call_watched (entry : EntryPoint) (template : Bytes) (native : Native)
    (calls : List ForeignCall) :
    (b.library.watched.call entry template native).run calls =
      (b.call entry template native, calls ++ b.foreignCalls entry template native) := by
  have asked : (b.library.watched.probe entry template native).run calls =
    (b.library.probe entry template native, calls ++ [.probe entry template native]) := rfl
  have rendered : (b.library.watched.render entry template native).run
      (calls ++ [.probe entry template native]) =
    (b.library.render entry template native,
      calls ++ [.probe entry template native] ++ [.render entry template native]) := rfl
  rw [call, foreignCalls, Exports.call, StateT.run_bind, asked]
  -- Whether there is a second call at all is up to the answer of the probe.
  cases b.library.probe entry template native with
  | true => rfl
  | false =>
    show (b.library.watched.render entry template native >>= _).run (calls ++ [_]) = _
    rw [StateT.run_bind, rendered, List.append_assoc]
    cases b.library.render entry template native <;> rfl

/-- A watched library gives the same answer, and its probe is asked just when the input can be
delivered. -/
theorem askProbe_watched (entry : EntryPoint) (template : String) (argument : Argument)
    (calls : List ForeignCall) :
    ∃ made, (b.library.watched.askProbe entry template argument).run calls =
        (b.probe entry template argument, calls ++ made) ∧
      (made = [] ↔ ∃ fault, Undeliverable entry template argument fault) := by
  simp only [← marshal_eq_error_iff, Exports.askProbe, probe]
  cases marshal entry template argument with
  | error fault => exact ⟨[], by rw [List.append_nil]; rfl, by simp⟩
  | ok input => exact ⟨[.probe entry input.1 input.2], rfl, by simp⟩

/-- A watched library leads to the same outcome, and is called just when the input can be
delivered. -/
theorem invoke_watched (entry : EntryPoint) (template : String) (argument : Argument)
    (calls : List ForeignCall) :
    ∃ made, (b.library.watched.invoke entry template argument).run calls =
        (b.invoke entry template argument, calls ++ made) ∧
      (made = [] ↔ ∃ fault, Undeliverable entry template argument fault) := by
  simp only [← marshal_eq_error_iff, Exports.invoke, invoke]
  cases marshal entry template argument with
  | error fault => exact ⟨[], by rw [List.append_nil]; rfl, by simp⟩
  | ok input =>
    refine ⟨b.foreignCalls entry input.1 input.2, ?_, by simp [foreignCalls]⟩
    rw [StateT.run_bind, b.call_watched]
    rfl

theorem deliverable_iff_invoke :
    Deliverable entry template argument ↔
      ∃ outcome, b.invoke entry template argument = .ok outcome := by
  simp [invoke, map_eq_ok_iff, marshal_eq_ok_iff]

theorem deliverable_iff_probe :
    Deliverable entry template argument ↔
      ∃ rejected, b.probe entry template argument = .ok rejected := by
  simp [probe, map_eq_ok_iff, marshal_eq_ok_iff]

/-- Rendering and probing refuse the same inputs with the same fault: for a NUL in the template,
else for an argument of another shape, else for a NUL in the string argument, a NUL being placed by
the bytes in front of it. Every other input is answered by both. An input that is refused does not
reach the library, whatever its exports do: a library that keeps a state is left in the same state,
and one that writes its calls down, while it answers as the library of the bridge does, has written
nothing just when the input is refused. -/
theorem refusals_shared (b : Bridge) (entry : EntryPoint) (template : String)
    (argument : Argument) :
    (∀ fault, b.invoke entry template argument = .error fault ↔
      Undeliverable entry template argument fault) ∧
    (∀ fault, b.probe entry template argument = .error fault ↔
      Undeliverable entry template argument fault) ∧
    (Deliverable entry template argument ↔
      ∃ outcome, b.invoke entry template argument = .ok outcome) ∧
    (Deliverable entry template argument ↔
      ∃ rejected, b.probe entry template argument = .ok rejected) ∧
    (∀ fault, Undeliverable entry template argument fault →
      ∀ (σ : Type) (x : Exports σ) (s : σ),
        (x.invoke entry template argument).run s = (.error fault, s) ∧
        (x.askProbe entry template argument).run s = (.error fault, s)) ∧
    ∀ calls, (∃ made, (b.library.watched.invoke entry template argument).run calls =
          (b.invoke entry template argument, calls ++ made) ∧
        (made = [] ↔ ∃ fault, Undeliverable entry template argument fault)) ∧
      ∃ made, (b.library.watched.askProbe entry template argument).run calls =
          (b.probe entry template argument, calls ++ made) ∧
        (made = [] ↔ ∃ fault, Undeliverable entry template argument fault) := by
  refine ⟨fun fault => ?_, fun fault => ?_, b.deliverable_iff_invoke, b.deliverable_iff_probe,
    fun fault refused σ x s => ?_, fun calls => ?_⟩
  · rw [invoke, map_eq_error_iff, marshal_eq_error_iff]
  · rw [probe, map_eq_error_iff, marshal_eq_error_iff]
  · exact ⟨x.invoke_of_undeliverable s refused, x.askProbe_of_undeliverable s refused⟩
  · exact ⟨b.invoke_watched entry template argument calls,
      b.askProbe_watched entry template argument calls⟩

/-- Three reasons at once, the first of them behind a character of two bytes. -/
theorem refusals_shared_beyond_ascii :
    Undeliverable .int "é\x00" (.text "\x00") (.interiorNul "template" 2) ∧
    (⟨"", Echo.library⟩ : Bridge).invoke .int "é\x00" (.text "\x00") =
      .error (.interiorNul "template" 2) ∧
    (⟨"", Echo.library⟩ : Bridge).probe .int "é\x00" (.text "\x00") =
      .error (.interiorNul "template" 2) ∧
    (Echo.library.watched.invoke .int "é\x00" (.text "\x00")).run [] =
      (.error (.interiorNul "template" 2), []) := by
  have first : FirstNul "é\x00" 2 := ⟨['é'], [], by decide, by decide, by decide⟩
  have refused : Undeliverable .int "é\x00" (.text "\x00") (.interiorNul "template" 2) :=
    .template first
  obtain ⟨invoked, probed, -, -, untouched, -⟩ :=
    refusals_shared ⟨"", Echo.library⟩ .int "é\x00" (.text "\x00")
  exact ⟨refused, (invoked _).2 refused, (probed _).2 refused,
    (untouched _ refused _ Echo.library.watched []).1⟩

end Bridge

end FormatConformance.Subject
