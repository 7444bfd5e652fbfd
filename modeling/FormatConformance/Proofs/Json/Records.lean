import FormatConformance.Proofs.Json.Reading
import FormatConformance.Record

/-!
# Records read back

`ReadsBack` is what an encoding owes to its reader: only integers for numbers, every value read
back, and nothing that reads as a value from null, which is what tells an optional value from an
absent one. It holds of the parts from which records are made, and is passed on to lists.

A record whose names are distinct gives back the value of each name, none for a field that was left
out (`slots?_record`). What a field then comes to is the same three lemmas for every record: one for
a field that is always there, one for a field that is left out, and one for a field that is written
as null. From its fields the whole record is read back (`readsBack_record`).
-/

namespace FormatConformance

open Json

/-- Values that are read back as they were written. -/
structure ReadsBack {α : Type} (encode : α → Json) (read : Document → Option α) : Prop where
  integral : ∀ a, (encode a).Integral
  back : ∀ a, read (.ofValue (encode a)) = some a
  absent : read .null = none

/-! ## Lists of documents -/

theorem Json.Document.ofItems_eq_map (items : List Json) : ofItems items = items.map ofValue := by
  induction items with
  | nil => rfl
  | cons item items ih => rw [ofItems, ih, List.map_cons]

theorem Json.Document.ofFields_eq_map (fields : List (String × Json)) :
    ofFields fields = fields.map fun field => (some field.1, ofValue field.2) := by
  induction fields with
  | nil => rfl
  | cons field fields ih => rw [ofFields, ih, List.map_cons]

theorem Json.Schema.mapM_eq_map {α β : Type} {read : α → Option β} {value : α → β} {items : List α}
    (each : ∀ item ∈ items, read item = some (value item)) :
    items.mapM read = some (items.map value) := by
  induction items with
  | nil => rfl
  | cons item items ih =>
    obtain ⟨first, others⟩ := List.forall_mem_cons.1 each
    rw [List.mapM_cons, first, ih others]
    rfl

/-- A value that is there is not taken for an absent one. -/
theorem Json.Schema.optional?_of_present {α : Type} {read : Document → Option α} {d : Document}
    {a : α} (absent : read .null = none) (present : read d = some a) :
    optional? read d = some (some a) := by
  rw [optional?, present]
  · rfl
  · rintro rfl
    rw [absent] at present
    cases present

/-! ## Parts of records -/

theorem readsBack_text : ReadsBack Json.string Schema.text? where
  integral := .string
  back _ := rfl
  absent := rfl

theorem readsBack_bool : ReadsBack Json.bool Schema.bool? where
  integral := .bool
  back _ := rfl
  absent := rfl

theorem Json.integral_nat {n : Nat} (fits : n < 2 ^ 64) : (Json.nat n).Integral :=
  .number ⟨by omega, by exact_mod_cast fits⟩

theorem Json.Schema.nat?_ofValue {bound n : Nat} (fits : n ≤ bound) :
    nat? bound (.ofValue (.nat n)) = some n :=
  if_pos fits

theorem readsBack_word64 : ReadsBack (fun word : UInt64 => .nat word.toNat) readWord64? where
  integral word := integral_nat word.toNat_lt
  back word := by
    have fits : word.toNat ≤ Numeral.maxWord64 := Nat.le_of_lt_succ word.toNat_lt
    rw [readWord64?, Schema.word64?, Schema.nat?_ofValue fits, Option.map_some,
      UInt64.ofNat_toNat]
  absent := rfl

theorem readsBack_word32 : ReadsBack (fun word : UInt32 => .nat word.toNat) readWord32? where
  integral word := integral_nat (word.toNat_lt.trans (by decide))
  back word := by
    have fits : word.toNat ≤ Numeral.maxWord32 := Nat.le_of_lt_succ word.toNat_lt
    rw [readWord32?, Schema.word32?, Schema.nat?_ofValue fits, Option.map_some,
      UInt32.ofNat_toNat]
  absent := rfl

/-- The words of a fixed set, when none of its names is used twice. -/
theorem readsBack_word {α : Type} {all : List α} {name : α → String} (complete : ∀ a, a ∈ all)
    (distinct : ∀ a b, name a = name b → a = b) :
    ReadsBack (fun a => .string (name a)) (Schema.word? all name) where
  integral a := .string (name a)
  back a := by
    show all.find? (fun b => name b = name a) = some a
    obtain ⟨b, found⟩ : ∃ b, all.find? (fun b => name b = name a) = some b :=
      Option.isSome_iff_exists.1 (List.find?_isSome.2 ⟨a, complete a, by simp⟩)
    have same : name b = name a := by simpa using List.find?_some found
    rw [found, distinct b a same]
  absent := rfl

namespace ReadsBack

variable {α : Type} {encode : α → Json} {read : Document → Option α}

theorem list (codec : ReadsBack encode read) :
    ReadsBack (fun values => .array (values.map encode)) (Schema.list? read) where
  integral _ := .array (List.forall_mem_map.2 fun a _ => codec.integral a)
  back values := by
    have each : values.mapM (read ∘ Document.ofValue ∘ encode) = some (values.map fun a => a) :=
      Schema.mapM_eq_map fun a _ => codec.back a
    show (Document.ofItems (values.map encode)).mapM read = some values
    rw [Document.ofItems_eq_map, List.map_map, List.mapM_map, each, List.map_id']
  absent := rfl

theorem optional (codec : ReadsBack encode read) (a : α) :
    Schema.optional? read (.ofValue (encode a)) = some (some a) :=
  Schema.optional?_of_present codec.absent (codec.back a)

end ReadsBack

/-! ## Fields by name

A record leaves out the fields that have no value. As its names are distinct, each name still leads
to its own field, or to nothing. -/

namespace Json.Schema

theorem valuesOf_record (name : String) (fields : List (String × Option Json)) :
    valuesOf name (Document.ofFields (fields.filterMap fun f => f.2.map (f.1, ·))) =
      fields.filterMap fun f => if f.1 = name then f.2.map Document.ofValue else none := by
  rw [valuesOf, Document.ofFields_eq_map, List.filterMap_map, List.filterMap_filterMap]
  congr 1
  funext ⟨key, value⟩
  cases value with
  | none => simp
  | some value => simp

variable {fields : List (String × Option Json)}

/-- Of distinct names each has at most the value with which it was written. -/
theorem slot?_record (distinct : (fields.map Prod.fst).Nodup) :
    ∀ field ∈ fields,
      slot? (Document.ofFields (fields.filterMap fun f => f.2.map (f.1, ·))) field.1 =
        some (field.2.map Document.ofValue) := by
  intro field mem
  have once : (fields.filterMap fun f => if f.1 = field.1 then f.2.map Document.ofValue else none) =
      (field.2.map Document.ofValue).toList := by
    -- Only the field at hand has its name, so the fields before and behind it give nothing.
    induction fields with
    | nil => contradiction
    | cons first fields ih =>
      obtain ⟨fresh, distinct⟩ := List.nodup_cons.1 distinct
      rcases List.mem_cons.1 mem with rfl | mem
      · have others : ∀ f ∈ fields, f.1 ≠ field.1 := fun f mem same =>
          fresh (same ▸ List.mem_map_of_mem mem)
        rw [List.filterMap_cons, if_pos rfl,
          List.filterMap_eq_nil_iff.2 fun f mem => if_neg (others f mem)]
        cases field.2 <;> rfl
      · have other : first.1 ≠ field.1 := fun same => fresh (same ▸ List.mem_map_of_mem mem)
        rw [List.filterMap_cons, if_neg other]
        exact ih distinct mem
  rw [slot?, valuesOf_record, once]
  cases field.2 <;> rfl

theorem slots?_record {names : List String} (named : fields.map Prod.fst = names)
    (distinct : names.Nodup) (needed : Nat) :
    slots? names needed (.ofValue (.record fields)) =
      some (fields.map fun field => field.2.map Document.ofValue) := by
  subst named
  have known : ∀ field ∈ Document.ofFields (fields.filterMap fun f => f.2.map (f.1, ·)),
      field.1.isSome := by
    rw [Document.ofFields_eq_map, List.forall_mem_map]
    exact fun _ _ => rfl
  rw [record, Document.ofValue, slots?, if_pos (List.all_eq_true.2 known), List.mapM_map]
  exact mapM_eq_map (slot?_record distinct)

end Json.Schema

/-! ## What a field comes to -/

namespace ReadsBack

variable {α : Type} {encode : α → Json} {read : Document → Option α}

theorem integral_field (codec : ReadsBack encode read) (name : String) (a : α) :
    ∀ j ∈ (field name (encode a)).2, j.Integral := by
  rintro _ ⟨⟩
  exact codec.integral a

theorem integral_optionalField (codec : ReadsBack encode read) (name : String)
    (value : Option α) : ∀ j ∈ (optionalField name encode value).2, j.Integral := by
  intro j mem
  obtain ⟨a, -, rfl⟩ := Option.map_eq_some_iff.1 mem
  exact codec.integral a

theorem integral_ofOption (codec : ReadsBack encode read) (name : String) (value : Option α) :
    ∀ j ∈ (field name (Json.ofOption encode value)).2, j.Integral := by
  cases value with
  | none =>
    rintro _ ⟨⟩
    exact .null
  | some a => exact codec.integral_field name a

theorem required?_field (codec : ReadsBack encode read) (name : String) (a : α) :
    Schema.required? read ((field name (encode a)).2.map Document.ofValue) = some a :=
  codec.back a

theorem absentOr?_optionalField (codec : ReadsBack encode read) (name : String)
    (value : Option α) :
    Schema.absentOr? read ((optionalField name encode value).2.map Document.ofValue) =
      some value := by
  cases value with
  | none => rfl
  | some a => exact codec.optional a

theorem absentOr?_ofOption (codec : ReadsBack encode read) (name : String) (value : Option α) :
    Schema.absentOr? read ((field name (Json.ofOption encode value)).2.map Document.ofValue) =
      some value := by
  cases value with
  | none => rfl
  | some a => exact codec.optional a

end ReadsBack

/-! ## Records of fields -/

theorem Json.Integral.record {fields : List (String × Option Json)}
    (each : fields.Forall fun field => ∀ j ∈ field.2, j.Integral) : (Json.record fields).Integral :=
  .object fun field mem => by
    obtain ⟨written, inside, shown⟩ := List.mem_filterMap.1 mem
    obtain ⟨j, present, rfl⟩ := Option.map_eq_some_iff.1 shown
    exact List.forall_iff_forall_mem.1 each written inside j present

/-- A record is read back when its values are, each under its own name. -/
theorem readsBack_record {α : Type} {fields : α → List (String × Option Json)} {names : List String}
    {needed : Nat} {build : List (Option Document) → Option α}
    (named : ∀ a, (fields a).map Prod.fst = names) (distinct : names.Nodup)
    (integral : ∀ a, (fields a).Forall fun field => ∀ j ∈ field.2, j.Integral)
    (built : ∀ a, build ((fields a).map fun field => field.2.map Document.ofValue) = some a) :
    ReadsBack (fun a => .record (fields a)) (fun d => Schema.slots? names needed d >>= build) where
  integral a := .record (integral a)
  back a := by
    rw [Schema.slots?_record (named a) distinct, Option.bind_eq_bind, Option.bind_some, built]
  absent := rfl

end FormatConformance
