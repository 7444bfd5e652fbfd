import FormatConformance.Log.Emitter
import FormatConformance.Log.Validation
import FormatConformance.Proofs.Json.Printable
import FormatConformance.Proofs.Json.Sorting
import FormatConformance.Proofs.Reports

/-!
# The lines of a log

An emitter adds one line for an entry and names the entry if it has no name yet (`lines_emit`). The
line is one line of text: it holds no control character (`printable_line`). It is read as the value
of the entry (`read?_line`) unless the details are too deep or have numbers that are no integers. It
passes the checks of the log and is read as the entry that was emitted (`validate_line`). The checks
look at the line as a value, whose fields are sorted, so details come back as they are if they are
`Durable`: sorted already, not null, and not too deep.
-/

namespace FormatConformance

open Json
open Json.Schema (read_next)

/-! ## The parts of an entry -/

theorem readsSorted_text : ReadsSorted Json.string Schema.text? :=
  .of_readsBack readsBack_text fun _ => rfl

theorem readsSorted_word64 : ReadsSorted (fun word : UInt64 => .nat word.toNat) readWord64? :=
  .of_readsBack readsBack_word64 fun _ => rfl

theorem Case.Record.readsSorted : ReadsSorted toJson ofDocument? := by
  refine ReadsSorted.record (fun _ => rfl) (by decide) fun r => ?_
  refine read_next (readsSorted_text.required?_field _ _) ?_
  refine read_next (readsSorted_text.required?_field _ _) ?_
  exact read_next (readsSorted_text.required?_field _ _) rfl

theorem Outcome.Record.readsSorted : ReadsSorted toJson ofDocument? := by
  refine ReadsSorted.record (fun _ => rfl) (by decide) fun r => ?_
  refine read_next (readsSorted_text.required?_field _ _) ?_
  refine read_next (readsSorted_text.absentOr?_optionalField _ _) ?_
  exact read_next (readsSorted_text.absentOr?_optionalField _ _) rfl

namespace Log

theorem Level.mem_all (level : Level) : level ∈ all := by
  cases level <;> decide

theorem Level.name_injective : Function.Injective name := by
  intro a b
  cases a <;> cases b <;> decide

theorem Level.readsBack :
    ReadsBack (fun level => .string (Level.name level)) (Schema.word? Level.all Level.name) :=
  readsBack_word mem_all name_injective

theorem Status.mem_all (status : Status) : status ∈ all := by
  cases status <;> decide

theorem Status.name_injective : Function.Injective name := by
  intro a b
  cases a <;> cases b <;> decide

theorem Status.readsBack :
    ReadsBack (fun status => .string (Status.name status)) (Schema.word? Status.all Status.name) :=
  readsBack_word mem_all name_injective

/-- Details that can be read back as a value inside of an entry. -/
structure Readable (details : Json) : Prop where
  integral : details.Integral
  shallow : (Document.ofValue details).depth < Document.depthLimit

/-- Details that come back as they are from the line of an entry. -/
structure Durable (details : Json) : Prop where
  integral : details.Integral
  sorted : details.sorted = details
  shallow : (Document.ofValue details).depth < Document.depthLimit
  not_null : details ≠ .null

theorem Durable.readable {details : Json} (durable : Durable details) : Readable details :=
  ⟨durable.integral, durable.shallow⟩

/-- A value without parts, and no number but an integer. -/
inductive Flat : Json → Prop
  | null : Flat .null
  | number {value : Json.Number} (integral : value.Integral) : Flat (.number value)
  | string (value : String) : Flat (.string value)

theorem Flat.nat {n : Nat} (fits : n < 2 ^ 64) : Flat (.nat n) := by
  cases integral_nat fits with
  | number integral => exact .number integral

theorem Flat.ofOption_string (value : Option String) : Flat (.ofOption .string value) := by
  cases value with
  | none => exact .null
  | some value => exact .string value

/-- An object of flat values with its keys in order. -/
theorem durable_object {fields : List (String × Json)}
    (ordered : (fields.map Prod.fst).Pairwise fun k l => ¬l < k ∧ l ≠ k)
    (flat : ∀ field ∈ fields, Flat field.2) : Durable (.object fields) := by
  -- A flat value is one step deep at most and has no keys to sort.
  have leaf {j : Json} (flat : Flat j) :
      j.Integral ∧ j.sorted = j ∧ (Document.ofValue j).depth ≤ 0 := by
    cases flat with
    | null => exact ⟨.null, rfl, le_rfl⟩
    | number integral => exact ⟨.number integral, rfl, le_rfl⟩
    | string value => exact ⟨.string value, rfl, le_rfl⟩
  have shallow : (Document.ofValue (.object fields)).depth ≤ 0 + 1 :=
    depth_object_le fun field mem => (leaf (flat field mem)).2.2
  refine ⟨.object fun field mem => (leaf (flat field mem)).1,
    sorted_object ordered fun field mem => (leaf (flat field mem)).2.1, ?_, nofun⟩
  exact Nat.lt_of_le_of_lt shallow (by decide)

namespace Entry

/-- The details of an entry, if any, can be read back. -/
def Readable (e : Entry) : Prop :=
  ∀ details ∈ e.details, Log.Readable details

/-- The details of an entry, if any, come back as they are. -/
def Sound (e : Entry) : Prop :=
  ∀ details ∈ e.details, Durable details

theorem Sound.readable {e : Entry} (sound : e.Sound) : e.Readable :=
  fun details mem => (sound details mem).readable

theorem names_fields (e : Entry) : e.fields.map Prod.fst = fieldNames := rfl

theorem distinct_names : fieldNames.Nodup := by decide

variable {e : Entry}

theorem integral_toJson (readable : e.Readable) : e.toJson.Integral := by
  refine .record ⟨readsBack_text.integral_field _ _, readsBack_text.integral_field _ _,
    Level.readsBack.integral_field _ _, readsBack_text.integral_field _ _,
    readsBack_text.integral_optionalField _ _, readsBack_text.integral_optionalField _ _,
    Status.readsBack.integral_optionalField _ _, Case.Record.readsBack.integral_optionalField _ _,
    Outcome.Record.readsBack.integral_optionalField _ _,
    Outcome.Record.readsBack.integral_optionalField _ _,
    readsBack_word64.integral_optionalField _ _, ?_⟩
  intro details mem
  rw [optionalField, Option.map_id] at mem
  exact (readable details mem).integral

theorem depth_field {name : String} {j : Json} {bound : Nat}
    (shallow : (Document.ofValue j).depth ≤ bound) :
    ∀ k ∈ (field name j).2, (Document.ofValue k).depth ≤ bound := by
  rintro _ ⟨⟩
  exact shallow

theorem depth_optionalField {α : Type} {encode : α → Json} {bound : Nat}
    (shallow : ∀ a, (Document.ofValue (encode a)).depth ≤ bound) (name : String)
    (value : Option α) :
    ∀ k ∈ (optionalField name encode value).2, (Document.ofValue k).depth ≤ bound := by
  intro k mem
  obtain ⟨a, -, rfl⟩ := Option.map_eq_some_iff.1 mem
  exact shallow a

theorem depth_toJson (readable : e.Readable) :
    (Document.ofValue e.toJson).depth ≤ Document.depthLimit := by
  have text (value : String) : (Document.ofValue (.string value)).depth ≤ 126 := Nat.zero_le _
  have input (r : Case.Record) : (Document.ofValue r.toJson).depth ≤ 126 :=
    Nat.le_of_ble_eq_true rfl
  have outcome (r : Outcome.Record) : (Document.ofValue r.toJson).depth ≤ 126 := by
    obtain ⟨status, payload, reason⟩ := r
    cases payload <;> cases reason <;> exact Nat.le_of_ble_eq_true rfl
  -- Only the details can be deep, and they may be as deep as a line allows.
  have deepest : ∀ d ∈ (optionalField "details" id e.details).2,
      (Document.ofValue d).depth ≤ 126 := by
    rw [optionalField, Option.map_id]
    exact fun d mem => Nat.le_of_lt_succ (readable d mem).shallow
  exact depth_record_le ⟨depth_field (text _), depth_field (text _), depth_field (text _),
    depth_field (text _), depth_optionalField text _ _, depth_optionalField text _ _,
    depth_optionalField (fun s => text (Status.name s)) _ _, depth_optionalField input _ _,
    depth_optionalField outcome _ _, depth_optionalField outcome _ _,
    depth_optionalField (fun _ => Nat.zero_le _) _ _, deepest⟩

/-- The line of a readable entry is read as the value of the entry with its fields sorted. -/
theorem read?_line (readable : e.Readable) : Json.read? e.line = some e.toJson.sorted :=
  read?_line_sorted (integral_toJson readable) (depth_toJson readable)

theorem absentOr?_details (sound : e.Sound) :
    Schema.absentOr? Document.evaluate
      ((optionalField "details" id e.details).2.map fun j => Document.ofValue j.sorted) =
        some e.details := by
  cases details : e.details with
  | none => rfl
  | some d =>
    obtain ⟨-, same, -, not_null⟩ := sound d details
    have present : (Document.ofValue d).evaluate = some d := by
      rw [evaluate_ofValue, same]
    show Schema.optional? Document.evaluate (.ofValue d.sorted) = some (some d)
    rw [same, Schema.optional?, present]
    · rfl
    · -- Details that are null would be read as no details.
      intro null
      cases d with
      | null => exact not_null rfl
      | _ => cases null

theorem ofDocument?_sorted (sound : e.Sound) :
    ofDocument? (.ofValue e.toJson.sorted) = some e := by
  rw [ofDocument?, toJson, slots?_sorted_record e.names_fields distinct_names]
  have level : ReadsSorted _ (Schema.word? Level.all Level.name) :=
    .of_readsBack Level.readsBack fun _ => rfl
  have status : ReadsSorted _ (Schema.word? Status.all Status.name) :=
    .of_readsBack Status.readsBack fun _ => rfl
  -- The readers take the fields in the order in which they were written.
  refine read_next rfl ?_
  refine read_next (readsSorted_text.required?_field _ _) ?_
  refine read_next (readsSorted_text.required?_field _ _) ?_
  refine read_next (level.required?_field _ _) ?_
  refine read_next (readsSorted_text.required?_field _ _) ?_
  refine read_next (readsSorted_text.absentOr?_optionalField _ _) ?_
  refine read_next (readsSorted_text.absentOr?_optionalField _ _) ?_
  refine read_next (status.absentOr?_optionalField _ _) ?_
  refine read_next (Case.Record.readsSorted.absentOr?_optionalField _ _) ?_
  refine read_next (Outcome.Record.readsSorted.absentOr?_optionalField _ _) ?_
  refine read_next (Outcome.Record.readsSorted.absentOr?_optionalField _ _) ?_
  refine read_next (readsSorted_word64.absentOr?_optionalField _ _) ?_
  exact read_next (absentOr?_details sound) rfl

/-! ## The checks of a line

Each check is shown to find nothing in the line of an entry: the depth, the fields that are
required, and the words that are known. -/

/-- Every field is found in the sorted line. -/
theorem field?_sorted (e : Entry) {name : String} {value : Option Json}
    (mem : (name, value) ∈ e.fields) : e.toJson.sorted.field? name = value.map Json.sorted :=
  field?_sorted_record (names_fields e ▸ distinct_names) _ mem

theorem wordViolations_eq_nil {line : Nat} {object : Json} {name : String} {words : List String}
    {word : Option String} (found : object.field? name = word.map Json.string)
    (known : ∀ w ∈ word, w ∈ words) : wordViolations line object name words = [] := by
  rw [wordViolations, found]
  cases word with
  | none => rfl
  | some w => exact if_pos (List.contains_iff_mem.2 (known w rfl))

theorem fieldViolations_eq_nil (e : Entry) (n : Nat) :
    fieldViolations n e.toJson.sorted = [] := by
  have there : ∀ name ∈ requiredNames, ¬(e.toJson.sorted.field? name).isNone = true := by
    have written {name : String} {value : Json} (mem : field name value ∈ e.fields) :
        ¬(e.toJson.sorted.field? name).isNone = true := by
      rw [e.field?_sorted mem]
      exact Bool.false_ne_true
    simp only [requiredNames, List.forall_mem_cons, List.not_mem_nil, false_imp_iff, implies_true,
      and_true]
    exact ⟨written (.head _), written (.tail _ (.head _)),
      written (.tail _ (.tail _ (.head _))), written (.tail _ (.tail _ (.tail _ (.head _))))⟩
  have level : e.toJson.sorted.field? "level" = (some e.level.name).map Json.string :=
    e.field?_sorted (.tail _ (.tail _ (.head _)))
  have outcome : e.toJson.sorted.field? "outcome" =
      (e.outcome.map Status.name).map Json.string := by
    have found := @field?_sorted e "outcome" (e.outcome.map fun s => .string s.name)
      (by simp [fields, optionalField])
    rw [found, Option.map_map, Option.map_map]
    rfl
  -- The names are those of the enumerations, so each of them is in its list.
  have level_known : ∀ w ∈ some e.level.name, w ∈ Level.all.map Level.name := by
    rintro _ ⟨⟩
    cases e.level <;> decide
  have outcome_known : ∀ w ∈ e.outcome.map Status.name, w ∈ Status.all.map Status.name := by
    intro w mem
    obtain ⟨s, -, rfl⟩ := Option.map_eq_some_iff.1 mem
    cases s <;> decide
  rw [fieldViolations, wordViolations_eq_nil level level_known,
    wordViolations_eq_nil outcome outcome_known, List.filter_eq_nil_iff.2 there]
  rfl

/-- The line of a sound entry passes the checks, and is read as the entry. -/
theorem validate_line (sound : e.Sound) (n : Nat) : validate e.line n = .ok e := by
  obtain ⟨fields, same, -⟩ := exists_sorted_record (names_fields e ▸ distinct_names)
  change e.toJson.sorted = .object fields at same
  have clean : fieldViolations n (.object fields) = [] := same ▸ e.fieldViolations_eq_nil n
  have entry : ofDocument? (.ofValue (.object fields)) = some e := same ▸ ofDocument?_sorted sound
  rw [validate, read?_line sound.readable, same]
  simp only [clean, entry]

/-- The line of an entry holds no control character, so it is one line of text. -/
theorem printable_line (e : Entry) : ∀ x ∈ e.line.toList, 0x20 ≤ x.toNat := by
  rw [line, Json.line, String.toList_ofList]
  exact printable_compact e.toJson

end Entry

/-! ## What an emitter writes -/

namespace Emitter

/-- The entry as it is emitted. -/
def named (log : Emitter) (e : Entry) : Entry :=
  if e.traceId = "" then { e with traceId := traceId log.runId (log.sequence + 1).toNat } else e

theorem lines_emit (log : Emitter) (e : Entry) :
    (log.emit e).lines = log.lines ++ [(log.named e).line] := by
  unfold emit named
  split <;> exact List.reverse_cons

end Emitter

end Log

end FormatConformance
