import FormatConformance.Proofs.Json.Records
import Mathlib.Data.List.Forall2

/-!
# What a record reader accepts

The rules for reading a record, said without a reader: `Slots` gives each name of a record at most
one value, from an array by position and from an object by key, and a field that may be absent has
the relation `AbsentOr`. Each reader of the schema accepts just what its relation says, so a record
is read by following the relations field by field.

An object gives the same values whatever the order of its fields (`Slots.perm`).
-/

namespace FormatConformance.Json.Schema

/-! ## Values of fields -/

theorem text?_eq_some_iff {d : Document} {s : String} :
    text? d = some s ↔ d = .string (some s) := by
  cases d <;> simp [text?]

theorem bool?_eq_some_iff {d : Document} {b : Bool} : bool? d = some b ↔ d = .bool b := by
  cases d <;> simp [bool?]

theorem named?_eq_some_iff {α : Type} {all : List α} {name : α → String} (complete : ∀ a, a ∈ all)
    (distinct : ∀ a b, name a = name b → a = b) {word : String} {a : α} :
    named? all name word = some a ↔ word = name a := by
  constructor
  · intro found
    have named : name a = word := by simpa using List.find?_some found
    exact named.symm
  · rintro rfl
    exact (readsBack_word complete distinct).back a

/-- A word from a fixed set: a string, or an object that maps the string to null. -/
def IsWord {α : Type} (name : α → String) (d : Document) (a : α) : Prop :=
  d = .string (some (name a)) ∨ d = .object [(some (name a), .null)]

theorem word?_eq_some_iff {α : Type} {all : List α} {name : α → String} (complete : ∀ a, a ∈ all)
    (distinct : ∀ a b, name a = name b → a = b) {d : Document} {a : α} :
    word? all name d = some a ↔ IsWord name d a := by
  have named (word : String) : named? all name word = some a ↔ word = name a :=
    named?_eq_some_iff complete distinct
  unfold word? IsWord
  split
  · simp [named]
  · simp [named]
  · next no_string no_object =>
    constructor
    · intro none
      cases none
    · rintro (rfl | rfl)
      · exact absurd rfl (no_string _)
      · exact absurd rfl (no_object _)

/-- The value of a field that may be absent or null. -/
inductive AbsentOr {α : Type} (Is : Document → α → Prop) : Option Document → Option α → Prop
  | absent : AbsentOr Is none none
  | null : AbsentOr Is (some .null) none
  | present {d : Document} {a : α} : Is d a → AbsentOr Is (some d) (some a)

theorem absentOr?_eq_some_iff {α : Type} {read : Document → Option α} {Is : Document → α → Prop}
    (reads : ∀ d a, read d = some a ↔ Is d a) (null : read .null = none) {slot : Option Document}
    {value : Option α} : absentOr? read slot = some value ↔ AbsentOr Is slot value := by
  constructor
  · intro accepted
    cases slot with
    | none =>
      cases accepted
      exact .absent
    | some d =>
      rw [absentOr?] at accepted
      unfold optional? at accepted
      split at accepted
      · cases accepted
        exact .null
      · obtain ⟨a, present, rfl⟩ := Option.map_eq_some_iff.1 accepted
        exact .present ((reads d a).1 present)
  · intro is
    cases is with
    | absent => rfl
    | null => rfl
    | @present d a is =>
      have read_eq : read d = some a := (reads d a).2 is
      -- What a reader accepts is not null, so the field is not taken for absent.
      have not_null : d ≠ .null := by
        rintro rfl
        rw [null] at read_eq
        cases read_eq
      rw [absentOr?, optional?, read_eq, Option.map_some]
      exact not_null

theorem required?_eq_some_iff {α : Type} {read : Document → Option α} {slot : Option Document}
    {a : α} : required? read slot = some a ↔ ∃ d, slot = some d ∧ read d = some a :=
  Option.bind_eq_some_iff

/-! ## Fields by name -/

theorem mapM_eq_some_iff {α β : Type} {read : α → Option β} {items : List α} {values : List β} :
    items.mapM read = some values ↔ List.Forall₂ (fun a b => read a = some b) items values := by
  induction items generalizing values with
  | nil => simp [eq_comm]
  | cons item items ih =>
    simp only [List.mapM_cons, Option.bind_eq_bind, Option.bind_eq_some_iff, Option.pure_def,
      Option.some.injEq, ih, List.forall₂_cons_left_iff]
    constructor
    · rintro ⟨b, first, rest, others, rfl⟩
      exact ⟨b, rest, first, others, rfl⟩
    · rintro ⟨b, rest, first, others, rfl⟩
      exact ⟨b, first, rest, others, rfl⟩

theorem slot?_eq_some_iff {fields : List (Option String × Document)} {name : String}
    {slot : Option Document} :
    slot? fields name = some slot ↔ valuesOf name fields = slot.toList := by
  unfold slot?
  split
  · next none => cases slot <;> simp [none]
  · next one => cases slot <;> simp [one]
  · next no_value several =>
    constructor
    · intro none
      cases none
    · intro found
      cases slot with
      | none => exact absurd found no_value
      | some d => exact absurd found (several d)

/-- The values that the names of a record have. The values in an array belong to the first names,
and an object has no key that stands for nothing and no two values for a name; its other keys do not
count. -/
inductive Slots (names : List String) (needed : Nat) : Document → List (Option Document) → Prop
  | array {items : List Document} {missing : Nat} (enough : needed ≤ items.length)
    (all : items.length + missing = names.length) :
    Slots names needed (.array items) (items.map some ++ List.replicate missing none)
  | object {fields : List (Option String × Document)} {slots : List (Option Document)}
    (known : ∀ field ∈ fields, field.1.isSome)
    (each : List.Forall₂ (fun name slot => valuesOf name fields = slot.toList) names slots) :
    Slots names needed (.object fields) slots

theorem slots?_eq_some_iff {names : List String} {needed : Nat} {d : Document}
    {slots : List (Option Document)} :
    slots? names needed d = some slots ↔ Slots names needed d slots := by
  constructor
  · intro read
    unfold slots? at read
    split at read
    · next items =>
      split_ifs at read with fits
      cases read
      exact .array fits.1 (by omega)
    · next fields =>
      split_ifs at read with known
      refine .object (List.all_eq_true.1 known) ?_
      simpa only [slot?_eq_some_iff] using mapM_eq_some_iff.1 read
    · cases read
  · intro is
    cases is with
    | @array items missing enough all =>
      -- The names without a value are those behind the values.
      have rest : names.length - items.length = missing := by omega
      rw [slots?, if_pos ⟨enough, by omega⟩, rest]
    | object known each =>
      rw [slots?, if_pos (List.all_eq_true.2 known)]
      simpa only [mapM_eq_some_iff, slot?_eq_some_iff] using each

/-- The order of the fields of an object does not matter. -/
theorem Slots.perm {names : List String} {needed : Nat}
    {fields others : List (Option String × Document)} {slots : List (Option Document)}
    (is : Slots names needed (.object fields) slots) (same : others.Perm fields) :
    Slots names needed (.object others) slots := by
  cases is with
  | object known each =>
    refine .object (fun field mem => known field (same.mem_iff.1 mem)) ?_
    refine each.imp fun name slot found => ?_
    have values : (valuesOf name others).Perm slot.toList := found ▸ same.filterMap _
    -- A list of at most one value has no other order.
    cases slot with
    | none => exact values.eq_nil
    | some d => exact values.eq_singleton

end FormatConformance.Json.Schema
