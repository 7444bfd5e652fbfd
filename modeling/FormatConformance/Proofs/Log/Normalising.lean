import FormatConformance.Proofs.Json.Parts
import FormatConformance.Proofs.Log.Checking

/-!
# The normal form of a line

Many lines hold one entry: the fields stand in any order, keys come twice, names are written as
objects and records as arrays. The line of the entry that was read is the normal form of them all.
An entry that was read can be read back from its own line, because its details are sorted, are not
null and are no deeper than the line that they came from (`sound_of_validate`). All that is asked
for is that they hold no double, whose text may be read as another double.
-/

namespace FormatConformance.Log

open Json

/-- Details that an entry has are a field of the object, and not null. -/
theorem Holds.details_mem {fields : List (String × Json)} {e : Entry} (holds : Holds fields e)
    {details : Json} (given : e.details = some details) :
    ("details", details) ∈ fields ∧ details ≠ .null := by
  have read := holds.details
  rw [given] at read
  cases read with
  | there mem is =>
    cases is with
    | value not_null same =>
      subst same
      exact ⟨mem, not_null⟩

theorem sound_of_validate {text : String} {line : Nat} {e : Entry}
    (accepted : validate text line = .ok e)
    (floatless : ∀ details ∈ e.details, details.Floatless) : e.Sound := by
  obtain ⟨fields, denotes, -, holds⟩ := validate_eq_ok_iff.1 accepted
  intro details given
  obtain ⟨mem, not_null⟩ := holds.details_mem given
  exact {
    integral := denotes.integral_of_part (.field mem .self) (floatless details given)
    sorted := (denotes.ordered.of_mem_object mem).sorted_eq
    shallow := (depth_lt_of_mem_object mem).trans_le denotes.depth_le
    not_null := not_null }

/-- The line of an entry that was read is accepted again, as the same entry, and so its line is
itself. Two lines that were read have the same normal form just when they hold the same entry. -/
theorem normal_form_fixed {text : String} {line : Nat} {e : Entry}
    (accepted : validate text line = .ok e)
    (floatless : ∀ details ∈ e.details, details.Floatless) :
    (∀ n, ∃ again, validate e.line n = .ok again ∧ again.line = e.line ∧ again = e) ∧
    ∀ (text' : String) (line' : Nat) (e' : Entry), validate text' line' = .ok e' →
      (∀ details ∈ e'.details, details.Floatless) → (e'.line = e.line ↔ e' = e) := by
  have sound := sound_of_validate accepted floatless
  refine ⟨fun n => ⟨e, e.validate_line sound n, rfl, rfl⟩, ?_⟩
  intro text' line' e' accepted' floatless'
  have sound' := sound_of_validate accepted' floatless'
  constructor
  · intro same
    -- The same line is read as either entry.
    have read := e'.validate_line sound' line
    rw [same, e.validate_line sound line] at read
    exact (Except.ok.inj read).symm
  · rintro rfl
    rfl

/-- Details out of order, with a key that comes twice. -/
def untidy : Json :=
  .object [("b", .nat 0), ("a", .array [.object [("c", .null)]]), ("b", .number (.int (-7)))]

/-- The same details in order, without the value that does not count. -/
def tidy : Json :=
  .object [("a", .array [.object [("c", .null)]]), ("b", .number (.int (-7)))]

/-- An object with its fields out of order, a key that comes twice, a level as an object, a record
as an array, a null, and a field that is none of an entry. -/
def scattered : Json :=
  .object [("details", untidy), ("event", .string "e\n"), ("level", .object [("info", .null)]),
    ("trace_id", .string "old"), ("trace_id", .string "i"), ("x", .nat 1),
    ("timestamp", .string "t"), ("outcome", .null),
    ("case", .array [.string "a", .string "b", .string "c"])]

/-- The entry that the object holds. -/
def gathered : Entry :=
  ⟨"t", "i", .info, "e\n", none, none, none, some ⟨"a", "b", "c"⟩, none, none, none, some tidy⟩

theorem normal_form_fixed_scattered :
    validate scattered.line 3 = .ok gathered ∧ (∀ details ∈ gathered.details, details.Floatless) ∧
      scattered.line ≠ gathered.line ∧
      ∃ again, validate gathered.line 4 = .ok again ∧ again.line = gathered.line := by
  have integral_c : (Json.object [("c", .null)]).Integral := .object (by simpa using Integral.null)
  have integral_a : (Json.array [.object [("c", .null)]]).Integral :=
    .array (by simpa using integral_c)
  have integral_b : (Json.number (.int (-7))).Integral := .number ⟨by decide, by decide⟩
  have integral : scattered.Integral := by
    refine .object ?_
    simp only [List.forall_mem_cons]
    refine ⟨.object ?_, .string _, .object ?_, .string _, .string _, integral_nat (by decide),
      .string _, .null, .array ?_, nofun⟩
    · simpa using ⟨integral_nat (by decide), integral_a, integral_b⟩
    · simpa using Integral.null
    · simpa using ⟨Integral.string "a", Integral.string "b", Integral.string "c"⟩
  have sorted : scattered.sorted = .object [
      ("case", .array [.string "a", .string "b", .string "c"]), ("details", tidy),
      ("event", .string "e\n"), ("level", .object [("info", .null)]), ("outcome", .null),
      ("timestamp", .string "t"), ("trace_id", .string "i"), ("x", .nat 1)] := rfl
  have denotes : Denotes scattered.line scattered.sorted :=
    read?_eq_some_iff.1 (read?_line_sorted integral (by decide))
  rw [sorted] at denotes
  have accepted : validate scattered.line 3 = .ok gathered := by
    refine validate_of_holds denotes ?_ ?_
    · rintro (⟨required, absent⟩ | ⟨there, outside⟩ | ⟨there, outside⟩)
      · have all : ∀ name ∈ ["timestamp", "trace_id", "level", "event"], name ∈
            ["case", "details", "event", "level", "outcome", "timestamp", "trace_id", "x"] := by
          decide
        exact absent (all _ required)
      · simp at there
      · simp at there
    · exact {
        timestamp := by simp [gathered]
        traceId := by simp [gathered]
        level := ⟨.object [("info", .null)], by simp, .inr rfl⟩
        event := by simp [gathered]
        entryPoint := .absent (by simp)
        property := .absent (by simp)
        outcome := .there (by simp) .null
        input := @Optionally.there _ _ _ _ _ _ (.head _) (.value nofun (.array ⟨"a", "b", "c"⟩))
        reference := .absent (by simp)
        subject := .absent (by simp)
        duration := .absent (by simp)
        details := @Optionally.there _ _ _ _ _ _ (.tail _ (.head _)) (.value nofun rfl) }
  have floatless : ∀ details ∈ gathered.details, details.Floatless := by
    rintro _ ⟨⟩
    refine Integral.floatless (.object ?_)
    simpa using ⟨integral_a, integral_b⟩
  obtain ⟨again, read, same, -⟩ := (normal_form_fixed accepted floatless).1 4
  exact ⟨accepted, floatless, by decide +kernel, again, read, same⟩

end FormatConformance.Log
