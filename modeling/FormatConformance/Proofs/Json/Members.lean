import FormatConformance.Proofs.Json.Values
import FormatConformance.Record

/-!
# Records in values

A record is read from the document of a value by the same rules as from a text, and here the rules
are said of the value: a field that must be there, a field that may be absent or null
(`Optionally`), a name from a fixed set, and the records of cases and outcomes, as objects with any
further fields or as arrays. A reader that `Recognizes` a relation accepts just the values that are
in it. The keys of a value that was read are in order, so a name stands for one field at most and
what is said of a field is said of the one that counts.
-/

namespace FormatConformance.Json

/-! ## Readers of values -/

section Readers

variable {α : Type} {read : Document → Option α} {Is : Json → α → Prop}

/-- A reader gives something for the values that are in a relation with it, and for no others. -/
def Recognizes (read : Document → Option α) (Is : Json → α → Prop) : Prop :=
  ∀ j, Ordered j → ∀ a, read (.ofValue j) = some a ↔ Is j a

/-- A value that may be null. -/
inductive Nullable (Is : Json → α → Prop) : Json → Option α → Prop
  | null : Nullable Is .null none
  | value {j : Json} {a : α} (not_null : j ≠ .null) (is : Is j a) : Nullable Is j (some a)

/-- A field that may be absent or null. -/
inductive Optionally (Is : Json → α → Prop) (fields : List (String × Json)) (name : String) :
    Option α → Prop
  | absent (missing : ∀ j, (name, j) ∉ fields) : Optionally Is fields name none
  | there {j : Json} {value : Option α} (mem : (name, j) ∈ fields) (is : Nullable Is j value) :
    Optionally Is fields name value

theorem Recognizes.optional? (recognizes : Recognizes read Is) {j : Json} (ordered : Ordered j)
    {value : Option α} :
    Schema.optional? read (.ofValue j) = some value ↔ Nullable Is j value := by
  -- Null counts as no value before the reader is asked.
  by_cases null : j = .null
  · subst null
    constructor
    · intro found
      cases found
      exact .null
    · intro is
      cases is with
      | null => rfl
      | value not_null => exact absurd rfl not_null
  · have some_value : Document.ofValue j ≠ .null := by
      cases j with
      | null => exact absurd rfl null
      | _ => nofun
    have value_read : Schema.optional? read (.ofValue j) = (read (.ofValue j)).map some := by
      rw [Schema.optional?]
      exact some_value
    rw [value_read, Option.map_eq_some_iff]
    constructor
    · rintro ⟨a, found, rfl⟩
      exact .value null ((recognizes j ordered a).1 found)
    · intro is
      cases is with
      | null => exact absurd rfl null
      | value _ is => exact ⟨_, (recognizes j ordered _).2 is, rfl⟩

end Readers

/-! ## Fields by name -/

section Fields

variable {fields : List (String × Json)}

theorem Ordered.distinct (ordered : Ordered (.object fields)) : (fields.map Prod.fst).Nodup := by
  cases ordered with
  | object ordered _ => exact List.pairwise_map.2 (ordered.imp fun before => before.ne)

theorem Ordered.of_mem_object (ordered : Ordered (.object fields)) {name : String} {j : Json}
    (mem : (name, j) ∈ fields) : Ordered j := by
  cases ordered with
  | object _ each => exact each _ mem

theorem field?_eq_some_iff (distinct : (fields.map Prod.fst).Nodup) {name : String} {j : Json} :
    field? name (.object fields) = some j ↔ (name, j) ∈ fields := by
  constructor
  · intro found
    obtain ⟨field, first, rfl⟩ := Option.map_eq_some_iff.1 found
    have named : field.1 = name := by simpa using List.find?_some first
    exact named ▸ List.mem_of_find?_eq_some first
  · exact field?_of_mem distinct (name, j)

theorem valuesOf_object (distinct : (fields.map Prod.fst).Nodup) (name : String) :
    Schema.valuesOf name (Document.ofFields fields) =
      ((field? name (.object fields)).map Document.ofValue).toList := by
  have values : Schema.valuesOf name (Document.ofFields fields) =
      fields.filterMap fun f => if f.1 = name then some (Document.ofValue f.2) else none := by
    rw [Schema.valuesOf, Document.ofFields_eq_map, List.filterMap_map]
    simp
  rw [values]
  clear values
  induction fields with
  | nil => rfl
  | cons first fields ih =>
    obtain ⟨fresh, distinct⟩ := List.nodup_cons.1 distinct
    by_cases same : first.1 = name
    · -- No field behind it has the same key, so this is the only value.
      have others : ∀ f ∈ fields, f.1 ≠ name := fun f mem named =>
        fresh (same.trans named.symm ▸ List.mem_map_of_mem mem)
      rw [List.filterMap_cons, if_pos same,
        List.filterMap_eq_nil_iff.2 fun f mem => if_neg (others f mem), field?,
        List.find?_cons_of_pos (by simpa using same)]
      rfl
    · have skip : field? name (.object (first :: fields)) = field? name (.object fields) := by
        rw [field?, List.find?_cons_of_neg (by simpa using same), field?]
      rw [List.filterMap_cons, if_neg same, skip]
      exact ih distinct

/-- The values of the names of a record are those of the fields with these names. -/
theorem slots?_object (distinct : (fields.map Prod.fst).Nodup) (names : List String)
    (needed : Nat) :
    Schema.slots? names needed (.ofValue (.object fields)) =
      some (names.map fun name => (field? name (.object fields)).map Document.ofValue) := by
  have known : ∀ field ∈ Document.ofFields fields, field.1.isSome := by
    rw [Document.ofFields_eq_map, List.forall_mem_map]
    exact fun _ _ => rfl
  rw [Document.ofValue, Schema.slots?, if_pos (List.all_eq_true.2 known)]
  exact Schema.mapM_eq_map fun name _ => Schema.slot?_eq_some_iff.2 (valuesOf_object distinct name)

/-- The items of an array are the values of the names of a record when there is one for each. -/
theorem slots?_array {names : List String} {needed : Nat} (all : needed = names.length)
    {items : List Json} {slots : List (Option Document)} :
    Schema.slots? names needed (.ofValue (.array items)) = some slots ↔
      items.length = needed ∧ (items.map fun j => some (Document.ofValue j)) = slots := by
  subst all
  rw [Document.ofValue, Document.ofItems_eq_map, Schema.slots?, List.length_map,
    Option.ite_none_right_eq_some, Option.some.injEq]
  -- With all fields needed there is one number of items left.
  constructor
  · rintro ⟨⟨enough, few⟩, rfl⟩
    have same : items.length = names.length := le_antisymm few enough
    exact ⟨same, by simp [same]⟩
  · rintro ⟨same, rfl⟩
    exact ⟨⟨same.ge, same.le⟩, by simp [same]⟩

variable {α : Type} {read : Document → Option α} {Is : Json → α → Prop} {name : String}

theorem Recognizes.required?_field (recognizes : Recognizes read Is)
    (ordered : Ordered (.object fields)) {a : α} :
    Schema.required? read ((field? name (.object fields)).map Document.ofValue) = some a ↔
      ∃ j, (name, j) ∈ fields ∧ Is j a := by
  simp only [Schema.required?_eq_some_iff, Option.map_eq_some_iff,
    field?_eq_some_iff ordered.distinct]
  constructor
  · rintro ⟨_, ⟨j, mem, rfl⟩, found⟩
    exact ⟨j, mem, (recognizes j (ordered.of_mem_object mem) a).1 found⟩
  · rintro ⟨j, mem, is⟩
    exact ⟨_, ⟨j, mem, rfl⟩, (recognizes j (ordered.of_mem_object mem) a).2 is⟩

theorem Recognizes.absentOr?_field (recognizes : Recognizes read Is)
    (ordered : Ordered (.object fields)) {value : Option α} :
    Schema.absentOr? read ((field? name (.object fields)).map Document.ofValue) = some value ↔
      Optionally Is fields name value := by
  cases slot : field? name (.object fields) with
  | none =>
    have missing (j : Json) : (name, j) ∉ fields := fun mem => by
      rw [(field?_eq_some_iff ordered.distinct).2 mem] at slot
      cases slot
    constructor
    · intro found
      cases found
      exact .absent missing
    · intro is
      cases is with
      | absent => rfl
      | there mem => exact absurd mem (missing _)
  | some j =>
    have mem : (name, j) ∈ fields := (field?_eq_some_iff ordered.distinct).1 slot
    constructor
    · exact fun found => .there mem ((recognizes.optional? (ordered.of_mem_object mem)).1 found)
    · intro is
      cases is with
      | absent missing => exact absurd mem (missing j)
      | there mem' is =>
        -- The key stands there once, so the value that is meant is the one that was found.
        rw [← field?_eq_some_iff ordered.distinct, slot] at mem'
        obtain rfl := Option.some.inj mem'
        exact (recognizes.optional? (ordered.of_mem_object mem)).2 is

end Fields

/-! ## Parts of records

A case and an outcome can be written as an object or as an array. Each has a relation with a
constructor for either form, and the reader meets the relation. -/

/-- A string. -/
def IsText (j : Json) (s : String) : Prop :=
  j = .string s

/-- A name from a fixed set: a string, or an object that maps the string to null. -/
def IsName {α : Type} (name : α → String) (j : Json) (a : α) : Prop :=
  j = .string (name a) ∨ j = .object [(name a, .null)]

/-- A whole number of 64 bits. -/
def IsWord64 (j : Json) (word : UInt64) : Prop :=
  j = .nat word.toNat

theorem text?_ofValue {j : Json} {s : String} :
    Schema.text? (.ofValue j) = some s ↔ j = .string s := by
  rw [Schema.text?_eq_some_iff]
  cases j <;> simp [Document.ofValue]

theorem recognizes_text : Recognizes Schema.text? IsText :=
  fun _ _ _ => text?_ofValue

theorem recognizes_name {α : Type} {all : List α} {name : α → String} (complete : ∀ a, a ∈ all)
    (distinct : ∀ a b, name a = name b → a = b) :
    Recognizes (Schema.word? all name) (IsName name) := by
  intro j _ a
  rw [Schema.word?_eq_some_iff complete distinct, Schema.IsWord, IsName]
  cases j with
  | object fields =>
    -- A word may be written as an object, but only with a single field.
    match fields with
    | [] => simp [Document.ofValue, Document.ofFields]
    | [(key, value)] => cases value <;> simp [Document.ofValue, Document.ofFields]
    | _ :: _ :: _ => simp [Document.ofValue, Document.ofFields]
  | _ => simp [Document.ofValue]

theorem recognizes_word64 : Recognizes readWord64? IsWord64 := by
  intro j _ word
  rw [readWord64?, Option.map_eq_some_iff, IsWord64]
  constructor
  · rintro ⟨n, found, rfl⟩
    rw [Schema.word64?] at found
    unfold Schema.nat? at found
    split at found
    · next m same =>
      split_ifs at found with fits
      cases found
      cases j with
      | number value =>
        cases same
        -- The number fits, so the word has it as its value.
        rw [UInt64.toNat_ofNat_of_lt' (Nat.lt_succ_of_le fits)]
        rfl
      | _ => cases same
    · cases found
  · rintro rfl
    exact ⟨word.toNat, Schema.nat?_ofValue (Nat.le_of_lt_succ word.toNat_lt), UInt64.ofNat_toNat⟩

end FormatConformance.Json

namespace FormatConformance

open Json

/-- The record of a case: three strings in an array, or in the fields of an object. -/
inductive Case.Record.Is : Json → Case.Record → Prop
  | array (r : Case.Record) :
    Is (.array [.string r.entryPoint, .string r.template, .string r.value]) r
  | object {fields : List (String × Json)} {r : Case.Record}
    (entryPoint : ("entry_point", .string r.entryPoint) ∈ fields)
    (template : ("template", .string r.template) ∈ fields)
    (value : ("value", .string r.value) ∈ fields) : Is (.object fields) r

/-- The record of an outcome: a string and two that may be null in an array, or in the fields of an
object, from which the two may be absent. -/
inductive Outcome.Record.Is : Json → Outcome.Record → Prop
  | array {payload reason : Json} {r : Outcome.Record}
    (payload_is : Nullable IsText payload r.payload) (reason_is : Nullable IsText reason r.reason) :
    Is (.array [.string r.status, payload, reason]) r
  | object {fields : List (String × Json)} {r : Outcome.Record}
    (status : ("status", .string r.status) ∈ fields)
    (payload : Optionally IsText fields "payload" r.payload)
    (reason : Optionally IsText fields "reason" r.reason) : Is (.object fields) r

theorem Case.Record.recognizes : Recognizes ofDocument? Is := by
  intro j ordered r
  rw [ofDocument?, Option.bind_eq_bind, Option.bind_eq_some_iff]
  cases j with
  | array items =>
    have all : 3 = ["entry_point", "template", "value"].length := rfl
    simp only [slots?_array all, List.length_eq_three]
    constructor
    · rintro ⟨_, ⟨⟨a, b, c, rfl⟩, rfl⟩, built⟩
      simp only [List.map_cons, List.map_nil, Option.bind_eq_bind, Option.bind_eq_some_iff,
        Schema.required?, Option.bind_some, text?_ofValue, Option.pure_def, Option.some.injEq]
        at built
      obtain ⟨_, rfl, _, rfl, _, rfl, rfl⟩ := built
      exact .array ⟨_, _, _⟩
    · rintro ⟨⟩
      exact ⟨_, ⟨⟨_, _, _, rfl⟩, rfl⟩, rfl⟩
  | object fields =>
    simp only [slots?_object ordered.distinct, List.map_cons, List.map_nil, Option.some.injEq,
      exists_eq_left', Option.bind_eq_bind, Option.bind_eq_some_iff,
      recognizes_text.required?_field ordered, IsText, exists_eq_right, Option.pure_def]
    constructor
    · rintro ⟨entryPoint, first, template, second, value, third, rfl⟩
      exact .object first second third
    · rintro (_ | ⟨first, second, third⟩)
      exact ⟨_, first, _, second, _, third, rfl⟩
  | _ =>
    constructor
    · rintro ⟨_, found, -⟩
      cases found
    · rintro ⟨⟩

theorem Outcome.Record.recognizes : Recognizes ofDocument? Is := by
  intro j ordered r
  rw [ofDocument?, Option.bind_eq_bind, Option.bind_eq_some_iff]
  cases j with
  | array items =>
    have all : 3 = ["status", "payload", "reason"].length := rfl
    -- The items are values of JSON in order themselves, as their readers ask for.
    have each : ∀ item ∈ items, Ordered item := by
      cases ordered with
      | array each => exact each
    simp only [slots?_array all, List.length_eq_three]
    constructor
    · rintro ⟨_, ⟨⟨a, b, c, rfl⟩, rfl⟩, built⟩
      simp only [List.map_cons, List.map_nil, Option.bind_eq_bind, Option.bind_eq_some_iff,
        Schema.required?, Option.bind_some, text?_ofValue, Option.pure_def, Option.some.injEq,
        Schema.absentOr?] at built
      obtain ⟨_, rfl, payload, second, reason, third, rfl⟩ := built
      simp only [List.forall_mem_cons] at each
      exact @Is.array b c ⟨_, payload, reason⟩ ((recognizes_text.optional? each.2.1).1 second)
        ((recognizes_text.optional? each.2.2.1).1 third)
    · rintro ⟨payload_is, reason_is⟩
      simp only [List.forall_mem_cons] at each
      refine ⟨_, ⟨⟨_, _, _, rfl⟩, rfl⟩, Schema.read_next rfl ?_⟩
      refine Schema.read_next ((recognizes_text.optional? each.2.1).2 payload_is) ?_
      exact Schema.read_next ((recognizes_text.optional? each.2.2.1).2 reason_is) rfl
  | object fields =>
    simp only [slots?_object ordered.distinct, List.map_cons, List.map_nil, Option.some.injEq,
      exists_eq_left', Option.bind_eq_bind, Option.bind_eq_some_iff,
      recognizes_text.required?_field ordered, recognizes_text.absentOr?_field ordered, IsText,
      exists_eq_right, Option.pure_def]
    constructor
    · rintro ⟨status, first, payload, second, reason, third, rfl⟩
      exact .object first second third
    · rintro (_ | ⟨first, second, third⟩)
      exact ⟨_, first, _, second, _, third, rfl⟩
  | _ =>
    constructor
    · rintro ⟨_, found, -⟩
      cases found
    · rintro ⟨⟩

end FormatConformance
