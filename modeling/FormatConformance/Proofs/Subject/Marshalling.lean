import FormatConformance.Proofs.Text.Utf8
import FormatConformance.Subject.Bridge

/-!
# What the calling convention carries

A template and an argument reach the library just when the argument is of the shape that the entry
point takes and neither text holds a NUL (`marshal_eq_ok_iff`), and then they reach it byte for
byte.
-/

namespace FormatConformance.Subject

/-- An input that the calling convention of an entry point can carry. -/
structure Deliverable (entry : EntryPoint) (template : String) (argument : Argument) : Prop where
  shape : argument.entryPoint = entry
  template_clean : '\x00' ∉ template.toList
  value_clean : ∀ value, argument = .text value → '\x00' ∉ value.toList

theorem firstNul?_eq_none_iff {text : String} :
    firstNul? (Text.bytesOf text) = none ↔ '\x00' ∉ text.toList := by
  rw [firstNul?, List.findIdx?_eq_none_iff, ← Text.zero_mem_utf8_iff, Text.bytesOf]
  constructor
  · intro none zero
    simpa using none 0 zero
  · intro clean b mem
    have other : b ≠ 0 := fun zero => clean (zero ▸ mem)
    simpa using other

theorem marshalText_eq_ok_iff {what text : String} {bytes : Bytes} :
    marshalText what text = .ok bytes ↔ '\x00' ∉ text.toList ∧ bytes = Text.bytesOf text := by
  rw [← firstNul?_eq_none_iff, marshalText]
  cases firstNul? (Text.bytesOf text) with
  | none => simp [eq_comm]
  | some position => simp

theorem map_eq_ok_iff {ε α β : Type} {f : α → β} {result : Except ε α} {b : β} :
    result.map f = .ok b ↔ ∃ a, result = .ok a ∧ f a = b := by
  cases result <;> simp [Except.map]

theorem bind_eq_ok_iff {ε α β : Type} {f : α → Except ε β} {result : Except ε α} {b : β} :
    result >>= f = .ok b ↔ ∃ a, result = .ok a ∧ f a = .ok b := by
  cases result <;> simp [bind, Except.bind]

theorem map_eq_error_iff {ε α β : Type} {f : α → β} {result : Except ε α} {e : ε} :
    result.map f = .error e ↔ result = .error e := by
  cases result <;> simp [Except.map]

theorem bind_eq_error_iff {ε α β : Type} {f : α → Except ε β} {result : Except ε α} {e : ε} :
    result >>= f = .error e ↔ result = .error e ∨ ∃ a, result = .ok a ∧ f a = .error e := by
  cases result <;> simp [bind, Except.bind]

theorem marshalArgument_eq_ok_iff {entry : EntryPoint} {argument : Argument} {native : Native} :
    marshalArgument entry argument = .ok native ↔
      argument.entryPoint = entry ∧ (∀ value, argument = .text value → '\x00' ∉ value.toList) ∧
        native = .ofArgument argument := by
  unfold marshalArgument
  split_ifs with shape
  · cases argument with
    -- Only a text can be refused for what is in it.
    | text value =>
      simp only [map_eq_ok_iff, marshalText_eq_ok_iff, Native.ofArgument, shape, true_and,
        Argument.text.injEq, forall_eq']
      constructor
      · rintro ⟨bytes, ⟨clean, rfl⟩, rfl⟩
        exact ⟨clean, rfl⟩
      · rintro ⟨clean, rfl⟩
        exact ⟨_, ⟨clean, rfl⟩, rfl⟩
    | _ => simp [shape, eq_comm]
  · simp [shape]

/-- What the library is given is the template and the argument, byte for byte. -/
theorem marshal_eq_ok_iff {entry : EntryPoint} {template : String} {argument : Argument}
    {input : Bytes × Native} :
    marshal entry template argument = .ok input ↔
      Deliverable entry template argument ∧
        input = (Text.bytesOf template, .ofArgument argument) := by
  constructor
  · intro marshalled
    obtain ⟨bytes, template_carried, behind⟩ := bind_eq_ok_iff.1 marshalled
    obtain ⟨native, argument_carried, same⟩ := bind_eq_ok_iff.1 behind
    cases same
    obtain ⟨template_clean, rfl⟩ := marshalText_eq_ok_iff.1 template_carried
    obtain ⟨shape, value_clean, rfl⟩ := marshalArgument_eq_ok_iff.1 argument_carried
    exact ⟨⟨shape, template_clean, value_clean⟩, rfl⟩
  · rintro ⟨⟨shape, template_clean, value_clean⟩, rfl⟩
    rw [marshal, marshalText_eq_ok_iff.2 ⟨template_clean, rfl⟩]
    show (marshalArgument entry argument).bind _ = _
    rw [marshalArgument_eq_ok_iff.2 ⟨shape, value_clean, rfl⟩]
    rfl

end FormatConformance.Subject
