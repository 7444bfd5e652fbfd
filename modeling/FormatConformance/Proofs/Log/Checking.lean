import FormatConformance.Proofs.Json.Members
import FormatConformance.Proofs.Log.Lines

/-!
# The checks of a line

A line goes through three stages, and each is said here without the checker: which value the text
has (`Denotes`), whether anything is wrong with the fields of an object (`Flawed`) and what is then
reported (`Lists`), and which entry the fields hold (`Holds`). The second stage looks only at names
and strings, the third at all the types, so a line may pass one and fail the other. The first stage
to fail reports alone: `validate` has one equation for each way through the stages, every result
comes of one of them (`Checked`), and the main result, `validate_exact`, tells from the result which
way the line took.
-/

namespace FormatConformance.Log

open Json

/-- The fields of an object hold an entry. Fields with other names do not count. -/
structure Holds (fields : List (String × Json)) (e : Entry) : Prop where
  timestamp : ("timestamp", .string e.timestamp) ∈ fields
  traceId : ("trace_id", .string e.traceId) ∈ fields
  level : ∃ j, ("level", j) ∈ fields ∧ IsName Level.name j e.level
  event : ("event", .string e.event) ∈ fields
  entryPoint : Optionally IsText fields "entry_point" e.entryPoint
  property : Optionally IsText fields "property" e.property
  outcome : Optionally (IsName Status.name) fields "outcome" e.outcome
  input : Optionally Case.Record.Is fields "case" e.input
  reference : Optionally Outcome.Record.Is fields "reference" e.reference
  subject : Optionally Outcome.Record.Is fields "subject" e.subject
  duration : Optionally IsWord64 fields "duration_ms" e.duration
  details : Optionally Eq fields "details" e.details

theorem recognizes_value : Recognizes Document.evaluate Eq := fun j ordered a => by
  rw [evaluate_ofValue, ordered.sorted_eq, Option.some.injEq]

section Reading

variable {fields : List (String × Json)} (ordered : Ordered (.object fields))
include ordered

theorem required?_text {name s : String} :
    Schema.required? Schema.text? ((field? name (.object fields)).map Document.ofValue) = some s ↔
      (name, .string s) ∈ fields := by
  simp only [recognizes_text.required?_field ordered, IsText, exists_eq_right]

/-- An object is read as the entry that its fields hold. -/
theorem ofDocument?_eq_some_iff {e : Entry} :
    Entry.ofDocument? (.ofValue (.object fields)) = some e ↔ Holds fields e := by
  have level_word : Recognizes (Schema.word? Level.all Level.name) (IsName Level.name) :=
    recognizes_name Level.mem_all Level.name_injective
  have status_word : Recognizes (Schema.word? Status.all Status.name) (IsName Status.name) :=
    recognizes_name Status.mem_all Status.name_injective
  rw [Entry.ofDocument?, slots?_object ordered.distinct]
  constructor
  · intro read
    rw [Option.bind_eq_bind, Option.bind_some, Entry.fieldNames] at read
    simp only [List.map_cons, List.map_nil] at read
    -- The fields are read one after the other, and each reader meets its relation.
    obtain ⟨timestamp, timestamp_is, read⟩ := Option.bind_eq_some_iff.1 read
    obtain ⟨traceId, traceId_is, read⟩ := Option.bind_eq_some_iff.1 read
    obtain ⟨level, level_is, read⟩ := Option.bind_eq_some_iff.1 read
    obtain ⟨event, event_is, read⟩ := Option.bind_eq_some_iff.1 read
    obtain ⟨entryPoint, entryPoint_is, read⟩ := Option.bind_eq_some_iff.1 read
    obtain ⟨property, property_is, read⟩ := Option.bind_eq_some_iff.1 read
    obtain ⟨outcome, outcome_is, read⟩ := Option.bind_eq_some_iff.1 read
    obtain ⟨input, input_is, read⟩ := Option.bind_eq_some_iff.1 read
    obtain ⟨reference, reference_is, read⟩ := Option.bind_eq_some_iff.1 read
    obtain ⟨subject, subject_is, read⟩ := Option.bind_eq_some_iff.1 read
    obtain ⟨duration, duration_is, read⟩ := Option.bind_eq_some_iff.1 read
    obtain ⟨details, details_is, read⟩ := Option.bind_eq_some_iff.1 read
    cases read
    exact {
      timestamp := (required?_text ordered).1 timestamp_is
      traceId := (required?_text ordered).1 traceId_is
      level := (level_word.required?_field ordered).1 level_is
      event := (required?_text ordered).1 event_is
      entryPoint := (recognizes_text.absentOr?_field ordered).1 entryPoint_is
      property := (recognizes_text.absentOr?_field ordered).1 property_is
      outcome := (status_word.absentOr?_field ordered).1 outcome_is
      input := (Case.Record.recognizes.absentOr?_field ordered).1 input_is
      reference := (Outcome.Record.recognizes.absentOr?_field ordered).1 reference_is
      subject := (Outcome.Record.recognizes.absentOr?_field ordered).1 subject_is
      duration := (recognizes_word64.absentOr?_field ordered).1 duration_is
      details := (recognizes_value.absentOr?_field ordered).1 details_is }
  · intro holds
    refine Schema.read_next rfl ?_
    refine Schema.read_next ((required?_text ordered).2 holds.timestamp) ?_
    refine Schema.read_next ((required?_text ordered).2 holds.traceId) ?_
    refine Schema.read_next ((level_word.required?_field ordered).2 holds.level) ?_
    refine Schema.read_next ((required?_text ordered).2 holds.event) ?_
    refine Schema.read_next ((recognizes_text.absentOr?_field ordered).2 holds.entryPoint) ?_
    refine Schema.read_next ((recognizes_text.absentOr?_field ordered).2 holds.property) ?_
    refine Schema.read_next ((status_word.absentOr?_field ordered).2 holds.outcome) ?_
    refine Schema.read_next
      ((Case.Record.recognizes.absentOr?_field ordered).2 holds.input) ?_
    refine Schema.read_next
      ((Outcome.Record.recognizes.absentOr?_field ordered).2 holds.reference) ?_
    refine Schema.read_next
      ((Outcome.Record.recognizes.absentOr?_field ordered).2 holds.subject) ?_
    refine Schema.read_next ((recognizes_word64.absentOr?_field ordered).2 holds.duration) ?_
    exact Schema.read_next ((recognizes_value.absentOr?_field ordered).2 holds.details) rfl

end Reading

/-! ## Faults of fields -/

/-- What is reported of a field that may be a string outside of some words: that string, and nothing
when there is none. -/
inductive Reported (fields : List (String × Json)) (line : Nat) (name : String)
    (words : List String) : List Violation → Prop
  | nothing (known : ∀ word, (name, .string word) ∈ fields → word ∈ words) :
    Reported fields line name words []
  | unknown {word : String} (there : (name, .string word) ∈ fields) (outside : word ∉ words) :
    Reported fields line name words
      [⟨line, name, "invalid " ++ name ++ ": '" ++ word ++ "'"⟩]

/-- The violations of an object: one for each required field that is absent, then at most one for
the level, then at most one for the outcome. -/
def Lists (fields : List (String × Json)) (line : Nat) (violations : List Violation) : Prop :=
  ∃ level outcome,
    Reported fields line "level" ["trace", "debug", "info", "warn", "error"] level ∧
    Reported fields line "outcome" ["pass", "fail", "discard", "abort"] outcome ∧
    violations = (["timestamp", "trace_id", "level", "event"].filter fun name =>
      name ∉ fields.map Prod.fst).map (fun name => ⟨line, name, "required field missing"⟩) ++
        level ++ outcome

/-- An object lacks a required field, or its level or outcome is a string outside of its set. -/
inductive Flawed (fields : List (String × Json)) : Prop
  | missing {name : String} (required : name ∈ ["timestamp", "trace_id", "level", "event"])
    (absent : name ∉ fields.map Prod.fst)
  | level {word : String} (there : ("level", .string word) ∈ fields)
    (outside : word ∉ ["trace", "debug", "info", "warn", "error"])
  | outcome {word : String} (there : ("outcome", .string word) ∈ fields)
    (outside : word ∉ ["pass", "fail", "discard", "abort"])

section Faults

variable {fields : List (String × Json)} {line : Nat} {violations : List Violation}

theorem isNone_field? (distinct : (fields.map Prod.fst).Nodup) (name : String) :
    ((Json.object fields).field? name).isNone = decide (name ∉ fields.map Prod.fst) := by
  by_cases there : name ∈ fields.map Prod.fst
  · obtain ⟨⟨_, j⟩, mem, rfl⟩ := List.mem_map.1 there
    rw [(field?_eq_some_iff distinct).2 mem, decide_eq_false (not_not_intro there)]
    rfl
  · rw [field?_of_not_mem there, decide_eq_true there]
    rfl

theorem reported_wordViolations (distinct : (fields.map Prod.fst).Nodup) (line : Nat)
    (name : String) (words : List String) :
    Reported fields line name words (wordViolations line (.object fields) name words) := by
  unfold wordViolations
  split
  · next word found =>
    have there : (name, .string word) ∈ fields := (field?_eq_some_iff distinct).1 found
    split_ifs with known
    · refine .nothing fun other mem => ?_
      rw [← field?_eq_some_iff distinct, found] at mem
      cases mem
      exact List.contains_iff_mem.1 known
    · exact .unknown there fun inside => known (List.contains_iff_mem.2 inside)
  · -- Only strings are checked, so there is nothing to report of any other value.
    next no_string =>
    exact .nothing fun word mem => absurd ((field?_eq_some_iff distinct).2 mem) (no_string word)

theorem lists_fieldViolations (distinct : (fields.map Prod.fst).Nodup) (line : Nat) :
    Lists fields line (fieldViolations line (.object fields)) := by
  refine ⟨_, _, reported_wordViolations distinct line "level" _,
    reported_wordViolations distinct line "outcome" _, ?_⟩
  simp only [fieldViolations, isNone_field? distinct]
  rfl

theorem Reported.of_mem {name : String} {words : List String}
    (reported : Reported fields line name words violations) :
    ∀ v ∈ violations, v.line = line ∧ v.field = name := by
  cases reported with
  | nothing => exact nofun
  | unknown =>
    intro v mem
    rw [List.mem_singleton.1 mem]
    exact ⟨rfl, rfl⟩

theorem Lists.of_mem (lists : Lists fields line violations) :
    ∀ v ∈ violations, v.line = line ∧
      v.field ∈ ["timestamp", "trace_id", "level", "event", "outcome"] := by
  obtain ⟨level, outcome, level_is, outcome_is, rfl⟩ := lists
  intro v mem
  -- First the names that are missing, then the level, then the outcome.
  rcases List.mem_append.1 mem with mem | mem
  · rcases List.mem_append.1 mem with mem | mem
    · obtain ⟨name, absent, rfl⟩ := List.mem_map.1 mem
      have required : name ∈ ["timestamp", "trace_id", "level", "event"] :=
        (List.mem_filter.1 absent).1
      exact ⟨rfl, List.mem_append_left ["outcome"] required⟩
    · obtain ⟨same, named⟩ := level_is.of_mem v mem
      exact ⟨same, by simp [named]⟩
  · obtain ⟨same, named⟩ := outcome_is.of_mem v mem
    exact ⟨same, by simp [named]⟩

theorem Reported.eq_nil_iff {name : String} {words : List String}
    (reported : Reported fields line name words violations) :
    violations = [] ↔ ∀ word, (name, .string word) ∈ fields → word ∈ words := by
  cases reported with
  | nothing known => exact iff_of_true rfl known
  | unknown there outside => exact iff_of_false nofun fun known => outside (known _ there)

theorem Lists.eq_nil_iff (lists : Lists fields line violations) :
    violations = [] ↔ ¬Flawed fields := by
  obtain ⟨level, outcome, level_is, outcome_is, rfl⟩ := lists
  rw [List.append_eq_nil_iff, List.append_eq_nil_iff, List.map_eq_nil_iff, level_is.eq_nil_iff,
    outcome_is.eq_nil_iff, List.filter_eq_nil_iff]
  constructor
  · rintro ⟨⟨complete, level_known⟩, outcome_known⟩ flawed
    cases flawed with
    | missing required absent => exact complete _ required (decide_eq_true absent)
    | level there outside => exact outside (level_known _ there)
    | outcome there outside => exact outside (outcome_known _ there)
  · intro sound
    refine ⟨⟨fun name required absent => ?_, fun word there => ?_⟩, fun word there => ?_⟩
    · exact sound (.missing required (of_decide_eq_true absent))
    · exact not_not.1 fun outside => sound (.level there outside)
    · exact not_not.1 fun outside => sound (.outcome there outside)

end Faults

/-! ## What comes of a line -/

section Outcomes

variable {text : String} {line : Nat} {fields : List (String × Json)}

theorem validate_of_not_denotes (nothing : ∀ value, ¬Denotes text value) :
    validate text line = .error [.json line] := by
  have unread : Json.read? text = none := Option.eq_none_iff_forall_ne_some.2 fun value read =>
    nothing value (read?_eq_some_iff.1 read)
  rw [validate, unread]

theorem validate_of_no_object {value : Json} (denotes : Denotes text value)
    (other : ∀ fields, value ≠ .object fields) : validate text line = .error [.root line] := by
  rw [validate, read?_eq_some_iff.2 denotes]
  cases value with
  | object fields => exact absurd rfl (other fields)
  | _ => rfl

theorem validate_of_flawed (denotes : Denotes text (.object fields)) (flawed : Flawed fields) :
    validate text line = .error (fieldViolations line (.object fields)) := by
  have lists := lists_fieldViolations denotes.ordered.distinct line
  have faults : fieldViolations line (.object fields) ≠ [] := fun none =>
    lists.eq_nil_iff.1 none flawed
  obtain ⟨first, more, same⟩ := List.exists_cons_of_ne_nil faults
  rw [validate, read?_eq_some_iff.2 denotes]
  simp only [same]

theorem validate_of_holds (denotes : Denotes text (.object fields)) (sound : ¬Flawed fields)
    {e : Entry} (holds : Holds fields e) : validate text line = .ok e := by
  have lists := lists_fieldViolations denotes.ordered.distinct line
  have entry := (ofDocument?_eq_some_iff denotes.ordered).2 holds
  rw [validate, read?_eq_some_iff.2 denotes]
  simp only [lists.eq_nil_iff.2 sound, entry]

theorem validate_of_not_holds (denotes : Denotes text (.object fields)) (sound : ¬Flawed fields)
    (nothing : ∀ e, ¬Holds fields e) : validate text line = .error [.schema line] := by
  have lists := lists_fieldViolations denotes.ordered.distinct line
  have none : Entry.ofDocument? (.ofValue (.object fields)) = none :=
    Option.eq_none_iff_forall_ne_some.2 fun e entry =>
      nothing e ((ofDocument?_eq_some_iff denotes.ordered).1 entry)
  rw [validate, read?_eq_some_iff.2 denotes]
  simp only [lists.eq_nil_iff.2 sound, none]

/-- What comes of a line. -/
inductive Checked (text : String) (line : Nat) : Except (List Violation) Entry → Prop
  | json (nothing : ∀ value, ¬Denotes text value) : Checked text line (.error [.json line])
  | root {value : Json} (denotes : Denotes text value) (other : ∀ fields, value ≠ .object fields) :
    Checked text line (.error [.root line])
  | flawed {fields : List (String × Json)} {violations : List Violation}
    (denotes : Denotes text (.object fields)) (flawed : Flawed fields)
    (lists : Lists fields line violations) : Checked text line (.error violations)
  | schema {fields : List (String × Json)} (denotes : Denotes text (.object fields))
    (sound : ¬Flawed fields) (nothing : ∀ e, ¬Holds fields e) :
    Checked text line (.error [.schema line])
  | entry {fields : List (String × Json)} {e : Entry} (denotes : Denotes text (.object fields))
    (sound : ¬Flawed fields) (holds : Holds fields e) : Checked text line (.ok e)

theorem checked_validate (text : String) (line : Nat) : Checked text line (validate text line) := by
  -- The stages in their order: each one is reached only when the ones before found nothing.
  by_cases nothing : ∀ value, ¬Denotes text value
  · rw [validate_of_not_denotes nothing]
    exact .json nothing
  obtain ⟨value, denotes⟩ := not_forall_not.1 nothing
  by_cases other : ∀ fields, value ≠ .object fields
  · rw [validate_of_no_object denotes other]
    exact .root denotes other
  obtain ⟨fields, rfl⟩ := not_forall_not.1 other
  by_cases flawed : Flawed fields
  · rw [validate_of_flawed denotes flawed]
    exact .flawed denotes flawed (lists_fieldViolations denotes.ordered.distinct line)
  by_cases nothing : ∀ e, ¬Holds fields e
  · rw [validate_of_not_holds denotes flawed nothing]
    exact .schema denotes flawed nothing
  obtain ⟨e, holds⟩ := not_forall_not.1 nothing
  rw [validate_of_holds denotes flawed holds]
  exact .entry denotes flawed holds

theorem checked_of_validate {result : Except (List Violation) Entry}
    (found : validate text line = result) : Checked text line result :=
  found ▸ checked_validate text line

/-- A single violation that is not of a field is of the whole line. -/
theorem of_validate_single {field message : String}
    (found : validate text line = .error [⟨line, field, message⟩])
    (whole : field ∉ ["timestamp", "trace_id", "level", "event", "outcome"]) :
    (field = "<json>" ∧ ∀ value, ¬Denotes text value) ∨
      (field = "<root>" ∧ ∃ value, Denotes text value ∧ ∀ fields, value ≠ .object fields) ∨
      (field = "<schema>" ∧ ∃ fields, Denotes text (.object fields) ∧ ¬Flawed fields ∧
        ∀ e, ¬Holds fields e) := by
  cases checked_of_validate found with
  | json nothing => exact .inl ⟨rfl, nothing⟩
  | root denotes other => exact .inr (.inl ⟨rfl, _, denotes, other⟩)
  | flawed _ _ lists => exact absurd (lists.of_mem _ (.head _)).2 whole
  | schema denotes sound nothing => exact .inr (.inr ⟨rfl, _, denotes, sound, nothing⟩)

theorem validate_eq_json_iff :
    (∃ message, validate text line = .error [⟨line, "<json>", message⟩]) ↔
      ∀ value, ¬Denotes text value := by
  constructor
  · rintro ⟨message, found⟩
    rcases of_validate_single found (by decide) with ⟨-, nothing⟩ | ⟨named, -⟩ | ⟨named, -⟩
    · exact nothing
    · exact absurd named (by decide)
    · exact absurd named (by decide)
  · exact fun nothing => ⟨_, validate_of_not_denotes nothing⟩

theorem validate_eq_root_iff :
    (∃ message, validate text line = .error [⟨line, "<root>", message⟩]) ↔
      ∃ value, Denotes text value ∧ ∀ fields, value ≠ .object fields := by
  constructor
  · rintro ⟨message, found⟩
    rcases of_validate_single found (by decide) with ⟨named, -⟩ | ⟨-, other⟩ | ⟨named, -⟩
    · exact absurd named (by decide)
    · exact other
    · exact absurd named (by decide)
  · rintro ⟨value, denotes, other⟩
    exact ⟨_, validate_of_no_object denotes other⟩

theorem validate_eq_schema_iff :
    (∃ message, validate text line = .error [⟨line, "<schema>", message⟩]) ↔
      ∃ fields, Denotes text (.object fields) ∧ ¬Flawed fields ∧ ∀ e, ¬Holds fields e := by
  constructor
  · rintro ⟨message, found⟩
    rcases of_validate_single found (by decide) with ⟨named, -⟩ | ⟨named, -⟩ | ⟨-, nothing⟩
    · exact absurd named (by decide)
    · exact absurd named (by decide)
    · exact nothing
  · rintro ⟨fields, denotes, sound, nothing⟩
    exact ⟨_, validate_of_not_holds denotes sound nothing⟩

theorem validate_eq_ok_iff {e : Entry} :
    validate text line = .ok e ↔
      ∃ fields, Denotes text (.object fields) ∧ ¬Flawed fields ∧ Holds fields e := by
  constructor
  · intro found
    cases checked_of_validate found with
    | entry denotes sound holds => exact ⟨_, denotes, sound, holds⟩
  · rintro ⟨fields, denotes, sound, holds⟩
    exact validate_of_holds denotes sound holds

theorem line_of_validate {violations : List Violation}
    (found : validate text line = .error violations) :
    violations ≠ [] ∧ ∀ v ∈ violations, v.line = line := by
  have single {v : Violation} (same : v.line = line) :
      [v] ≠ [] ∧ ∀ w ∈ [v], w.line = line := by
    simpa using same
  cases checked_of_validate found with
  | json => exact single rfl
  | root => exact single rfl
  | flawed _ flawed lists =>
    exact ⟨fun none => lists.eq_nil_iff.1 none flawed, fun v mem => (lists.of_mem v mem).1⟩
  | schema => exact single rfl

end Outcomes

/-- The check of a line. It reports that the line is no value, or no object, just when it is not;
else the faults of the fields when there are any, and else it gives the entry that the object holds,
or reports that it holds none. A fault of the fields is a required field that is absent or a string
outside of its set, and each is listed once and in order. Whatever is reported, it is reported of
the line. -/
theorem validate_exact (text : String) (line : Nat) :
    ((∃ message, validate text line = .error [⟨line, "<json>", message⟩]) ↔
      ∀ value, ¬Denotes text value) ∧
    ((∃ message, validate text line = .error [⟨line, "<root>", message⟩]) ↔
      ∃ value, Denotes text value ∧ ∀ fields, value ≠ .object fields) ∧
    (∀ fields, Denotes text (.object fields) → Flawed fields →
      ∃ violations, validate text line = .error violations ∧ Lists fields line violations) ∧
    (∀ e, validate text line = .ok e ↔
      ∃ fields, Denotes text (.object fields) ∧ ¬Flawed fields ∧ Holds fields e) ∧
    ((∃ message, validate text line = .error [⟨line, "<schema>", message⟩]) ↔
      ∃ fields, Denotes text (.object fields) ∧ ¬Flawed fields ∧ ∀ e, ¬Holds fields e) ∧
    ∀ violations, validate text line = .error violations →
      violations ≠ [] ∧ ∀ v ∈ violations, v.line = line :=
  ⟨validate_eq_json_iff, validate_eq_root_iff,
    fun _ denotes flawed => ⟨_, validate_of_flawed denotes flawed,
      lists_fieldViolations denotes.ordered.distinct line⟩,
    fun _ => validate_eq_ok_iff, validate_eq_schema_iff, fun _ => line_of_validate⟩

/-- An object with a level that does not count, one that is an object, a null, a record as an array,
and a field that is none of an entry. -/
def spread : Json :=
  .object [("level", .string "loud"), ("event", .string "e"), ("trace_id", .string "i"),
    ("level", .object [("info", .null)]), ("x", .array [.null]), ("outcome", .null),
    ("case", .array [.string "a", .string "b", .string "c"]), ("timestamp", .string "t")]

theorem validate_exact_spread :
    validate spread.line 3 = .ok ⟨"t", "i", .info, "e", none, none, none, some ⟨"a", "b", "c"⟩,
      none, none, none, none⟩ := by
  have sorted : spread.sorted = .object [
      ("case", .array [.string "a", .string "b", .string "c"]), ("event", .string "e"),
      ("level", .object [("info", .null)]), ("outcome", .null), ("timestamp", .string "t"),
      ("trace_id", .string "i"), ("x", .array [.null])] := rfl
  have integral : spread.Integral := by
    refine .object ?_
    simp only [List.forall_mem_cons]
    refine ⟨.string _, .string _, .string _, .object ?_, .array ?_, .null, .array ?_, .string _,
      nofun⟩
    · simpa using Integral.null
    · simpa using Integral.null
    · simpa using ⟨Integral.string "a", Integral.string "b", Integral.string "c"⟩
  -- The line is spelled with its keys out of order; what it denotes has them in order.
  have denotes : Denotes spread.line spread.sorted :=
    read?_eq_some_iff.1 (read?_line_sorted integral (by decide))
  rw [sorted] at denotes
  obtain ⟨-, -, -, accepted, -, -⟩ := validate_exact spread.line 3
  refine (accepted _).2 ⟨_, denotes, ?_, ?_⟩
  · rintro (⟨required, absent⟩ | ⟨there, outside⟩ | ⟨there, outside⟩)
    · have all : ∀ name ∈ ["timestamp", "trace_id", "level", "event"],
          name ∈ ["case", "event", "level", "outcome", "timestamp", "trace_id", "x"] := by decide
      exact absent (all _ required)
    · simp at there
    · simp at there
  · exact {
      timestamp := by simp
      traceId := by simp
      level := ⟨.object [("info", .null)], by simp, .inr rfl⟩
      event := by simp
      entryPoint := .absent (by simp)
      property := .absent (by simp)
      outcome := .there (by simp) .null
      input := @Optionally.there _ _ _ _ _ _ (.head _) (.value nofun (.array ⟨"a", "b", "c"⟩))
      reference := .absent (by simp)
      subject := .absent (by simp)
      duration := .absent (by simp)
      details := .absent (by simp) }

end FormatConformance.Log
