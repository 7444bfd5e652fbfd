import FormatConformance.Proofs.Ieee.Marks
import FormatConformance.Proofs.Json.Reading

/-!
# No control characters

The line of a value holds no control character, whatever its strings and numbers are
(`printable_compact`): those inside strings are escaped, and a number is written with digits, signs,
a point and the letter of the exponent. So a value is always one line of text.
-/

namespace FormatConformance.Json

/-! ## Numbers -/

theorem printable_number (n : Number) : ∀ c ∈ n.text, Printable c := by
  have marks : ∀ c ∈ "0123456789+-.e".toList, Printable c :=
    List.forall_iff_forall_mem.1 (by decide)
  cases n with
  | int value => exact Ieee.Style.forall_mem_signedDecimal marks value
  | double bits =>
    have names : ∀ c ∈ doubleStyle.nan.toList ++ doubleStyle.infinity.toList, Printable c :=
      List.forall_iff_forall_mem.1 (by decide)
    exact Ieee.Style.forall_mem_text marks names Ieee.double bits.toNat

/-! ## Values -/

theorem printable_boolText (value : Bool) : ∀ c ∈ boolText value, Printable c := by
  cases value <;> simp [boolText, Printable]

theorem printable_compactItems {items : List Json}
    (each : ∀ item ∈ items, ∀ c ∈ item.compact, Printable c) :
    ∀ c ∈ compactItems items, Printable c := by
  induction items with
  | nil => simp [compactItems]
  | cons item items ih =>
    obtain ⟨first, others⟩ := List.forall_mem_cons.1 each
    rw [compactItems, List.forall_mem_cons, List.forall_mem_append]
    exact ⟨by decide, first, ih others⟩

theorem printable_compactField {field : String × Json}
    (value : ∀ c ∈ field.2.compact, Printable c) : ∀ c ∈ compactField field, Printable c := by
  obtain ⟨key, j⟩ := field
  rw [compactField, List.forall_mem_append, List.forall_mem_cons]
  exact ⟨printable_quote key.toList, by decide, value⟩

theorem printable_compactFields {fields : List (String × Json)}
    (each : ∀ field ∈ fields, ∀ c ∈ field.2.compact, Printable c) :
    ∀ c ∈ compactFields fields, Printable c := by
  induction fields with
  | nil => simp [compactFields]
  | cons field fields ih =>
    obtain ⟨first, others⟩ := List.forall_mem_cons.1 each
    rw [compactFields, List.forall_mem_cons, List.forall_mem_append]
    exact ⟨by decide, printable_compactField first, ih others⟩

/-- The line of a value holds no control character. -/
theorem printable_compact (j : Json) : ∀ c ∈ j.compact, Printable c := by
  induction j using Json.induction with
  | null => simp [compact, Printable]
  | bool value => exact printable_boolText value
  | number value => exact printable_number value
  | string value => exact printable_quote value.toList
  | array items each =>
    cases items with
    | nil => simp [compact, Printable]
    | cons item items =>
      obtain ⟨first, others⟩ := List.forall_mem_cons.1 each
      rw [compact]
      simp only [List.forall_mem_cons, List.forall_mem_append]
      exact ⟨by decide, ⟨first, printable_compactItems others⟩, by decide, by simp⟩
  | object fields each =>
    cases fields with
    | nil => simp [compact, Printable]
    | cons field fields =>
      obtain ⟨first, others⟩ := List.forall_mem_cons.1 each
      rw [compact]
      simp only [List.forall_mem_cons, List.forall_mem_append]
      exact ⟨by decide, ⟨printable_compactField first, printable_compactFields others⟩,
        by decide, by simp⟩

end FormatConformance.Json
