import FormatConformance.Proofs.Json.Reading

/-!
# Indented values read back

The indented form of a value differs from the compact form by line breaks and blanks between
lexemes, which the reader passes over (`lex_gap`). It is therefore cut into the lexemes of the same
document at every level of indentation (`tidy_of_integral`), and the page of a value is read as the
document of the value (`read?_page`).
-/

namespace FormatConformance.Json

open Token

/-! ## Between lexemes

A new line and the blanks of an indentation belong to no lexeme. They stand in front of the text of
a value, and they end a numeral in front of them. -/

namespace Token

/-- Nothing but characters that may stand between lexemes. -/
def Gap (gap : List Char) : Prop :=
  ∀ c ∈ gap, isSpace c

theorem lex_gap {gap : List Char} (blank : Gap gap) (rest : List Char) :
    lex (gap ++ rest) = lex rest := by
  induction gap with
  | nil => rfl
  | cons c gap ih =>
    obtain ⟨first, others⟩ := List.forall_mem_cons.1 blank
    rw [List.cons_append, lex, if_pos first, ih others]

theorem CutsInto.behind {gap text : List Char} {tokens : List Token} (blank : Gap gap)
    (cuts : CutsInto text tokens) : CutsInto (gap ++ text) tokens := by
  intro rest stops
  rw [List.append_assoc, lex_gap blank, cuts rest stops]

end Token

theorem gap_newline (level : Nat) : Gap (newline level) := by
  intro c mem
  rcases List.mem_cons.1 mem with rfl | mem
  · rfl
  · rw [List.eq_of_mem_replicate mem]
    rfl

theorem stops_newline (level : Nat) (text : List Char) : Stops (newline level ++ text) := by
  simp [Stops, newline]

/-! ## The page of a value -/

/-- The indented form of a value is cut into the lexemes of its document, whatever the level. -/
def Tidy (j : Json) : Prop :=
  ∀ level, CutsInto (j.indented level) (Document.ofValue j).tokens

theorem stops_indentedItems (level : Nat) (items : List Json) :
    Stops (indentedItems level items) := by
  cases items with
  | nil => exact stops_nil
  | cons item items =>
    rw [indentedItems]
    exact stops_comma _

theorem stops_indentedFields (level : Nat) (fields : List (String × Json)) :
    Stops (indentedFields level fields) := by
  cases fields with
  | nil => exact stops_nil
  | cons field fields =>
    rw [indentedFields]
    exact stops_comma _

theorem cutsInto_indentedItems (level : Nat) {items : List Json}
    (each : ∀ item ∈ items, Tidy item) :
    CutsInto (indentedItems level items) (Document.tokensOfItems (Document.ofItems items)) := by
  induction items with
  | nil => exact .nil
  | cons item items ih =>
    obtain ⟨first, others⟩ := List.forall_mem_cons.1 each
    have placed := (first level).behind (gap_newline level)
    rw [indentedItems, Document.ofItems, Document.tokensOfItems]
    exact .cons (by decide) (fun _ => rfl)
      (placed.append (stops_indentedItems level items) (ih others))

theorem cutsInto_indentedField (level : Nat) {field : String × Json} (value : Tidy field.2) :
    CutsInto (indentedField level field)
      (Document.tokensOfField (some field.1, Document.ofValue field.2)) := by
  obtain ⟨key, j⟩ := field
  have key_text := cutsInto_quote key.toList
  rw [String.ofList_toList] at key_text
  have blank : Gap [' '] := by simp [Gap, isSpace]
  rw [indentedField, Document.tokensOfField]
  exact key_text.append (by simp [Stops])
    (.cons (by decide) (fun _ => rfl) ((value level).behind blank))

theorem cutsInto_indentedFields (level : Nat) {fields : List (String × Json)}
    (each : ∀ field ∈ fields, Tidy field.2) :
    CutsInto (indentedFields level fields)
      (Document.tokensOfFields (Document.ofFields fields)) := by
  induction fields with
  | nil => exact .nil
  | cons field fields ih =>
    obtain ⟨first, others⟩ := List.forall_mem_cons.1 each
    -- Each field stands on a line of its own, behind the comma of the one before.
    have placed := (cutsInto_indentedField level first).behind (gap_newline level)
    rw [indentedFields, Document.ofFields, Document.tokensOfFields]
    exact .cons (by decide) (fun _ => rfl)
      (placed.append (stops_indentedFields level fields) (ih others))

theorem tidy_array {items : List Json} (each : ∀ item ∈ items, Tidy item) :
    Tidy (.array items) := by
  intro level
  have closed : CutsInto [']'] [.closeBracket] := .cons (by decide) (fun _ => rfl) .nil
  cases items with
  -- An empty array is written without a new line inside.
  | nil => exact .cons (by decide) (fun _ => rfl) closed
  | cons item items =>
    obtain ⟨first, others⟩ := List.forall_mem_cons.1 each
    have placed := (first (level + 1)).behind (gap_newline (level + 1))
    have inside := placed.append (stops_indentedItems (level + 1) items)
      (cutsInto_indentedItems (level + 1) others)
    rw [indented, Document.ofValue, Document.ofItems, Document.tokens,
      List.append_assoc _ (newline level)]
    exact .cons (by decide) (fun _ => rfl)
      (inside.append (stops_newline level _) (closed.behind (gap_newline level)))

theorem tidy_object {fields : List (String × Json)} (each : ∀ field ∈ fields, Tidy field.2) :
    Tidy (.object fields) := by
  intro level
  have closed : CutsInto ['\x7d'] [.closeBrace] := .cons (by decide) (fun _ => rfl) .nil
  cases fields with
  | nil => exact .cons (by decide) (fun _ => rfl) closed
  | cons field fields =>
    obtain ⟨first, others⟩ := List.forall_mem_cons.1 each
    have placed := (cutsInto_indentedField (level + 1) first).behind (gap_newline (level + 1))
    have inside := placed.append (stops_indentedFields (level + 1) fields)
      (cutsInto_indentedFields (level + 1) others)
    rw [indented, Document.ofValue, Document.ofFields, Document.tokens,
      List.append_assoc _ (newline level)]
    exact .cons (by decide) (fun _ => rfl)
      (inside.append (stops_newline level _) (closed.behind (gap_newline level)))

theorem tidy_of_integral {j : Json} (integral : Integral j) : Tidy j := by
  induction integral with
  | null => exact fun _ => .single (by decide) fun _ _ => rfl
  | bool value => exact fun _ => cutsInto_boolText value
  | number integral => exact fun _ => cutsInto_number integral
  | string value =>
    have text := cutsInto_quote value.toList
    rw [String.ofList_toList] at text
    exact fun _ => text
  | array _ each => exact tidy_array each
  | object _ each => exact tidy_object each

/-- The page of a value is read as the document of the value. -/
theorem read?_page {j : Json} (integral : Integral j) :
    Document.read? j.page = some (.ofValue j) := by
  have cut : lex (j.indented 0) = some (Document.ofValue j).tokens :=
    (tidy_of_integral integral 0).lex_eq
  rw [Document.read?, page, String.toList_ofList, cut]
  exact Document.ofTokens?_tokens _

end FormatConformance.Json
