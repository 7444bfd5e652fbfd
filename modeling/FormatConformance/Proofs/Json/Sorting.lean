import FormatConformance.Proofs.Json.Fields
import Mathlib.Data.List.Nodup

/-!
# Values with sorted fields

A value that is read from a text has the fields of its objects sorted by key. `sorted` is what that
makes of a value, and the line of a value is read as the value sorted (`read?_line_sorted`). A
record loses nothing by it. Its names are distinct, so its fields are the same in another order
(`exists_sorted_record`), and what a name stands for does not depend on the order, neither looked up
in the value (`field?_sorted_record`) nor read from it by name (`slots?_sorted_record`). So a record
is read back from its sorted form when its values are (`ReadsSorted.record`).
-/

namespace FormatConformance.Json

/-- Puts fields one after the other into sorted fields. -/
def insertFields (fields sofar : List (String × Json)) : List (String × Json) :=
  fields.foldl (fun sofar field => insertField field.1 field.2 sofar) sofar

mutual

/-- The value with the fields of its objects sorted by key. Of repeated keys the last one counts. -/
def sorted : Json → Json
  | array items => array (sortedItems items)
  | object fields => object (insertFields (sortedFields fields) [])
  | j => j

/-- The values, each with its fields sorted. -/
def sortedItems : List Json → List Json
  | [] => []
  | item :: items => sorted item :: sortedItems items

/-- The fields in the same order, with their values sorted. -/
def sortedFields : List (String × Json) → List (String × Json)
  | [] => []
  | (key, value) :: fields => (key, sorted value) :: sortedFields fields

end

theorem sortedItems_eq_map (items : List Json) : sortedItems items = items.map sorted := by
  induction items with
  | nil => rfl
  | cons item items ih => rw [sortedItems, ih, List.map_cons]

theorem sortedFields_eq_map (fields : List (String × Json)) :
    sortedFields fields = fields.map fun field => (field.1, field.2.sorted) := by
  induction fields with
  | nil => rfl
  | cons field fields ih => rw [sortedFields, ih, List.map_cons]

/-! ## The value of a line -/

theorem evaluateItems_ofItems {items : List Json}
    (each : ∀ item ∈ items, (Document.ofValue item).evaluate = some item.sorted) :
    Document.evaluateItems (Document.ofItems items) = some (sortedItems items) := by
  induction items with
  | nil => rfl
  | cons item items ih =>
    obtain ⟨first, others⟩ := List.forall_mem_cons.1 each
    rw [Document.ofItems, Document.evaluateItems, first, ih others, sortedItems]
    rfl

theorem evaluateFields_ofFields {fields : List (String × Json)}
    (each : ∀ field ∈ fields, (Document.ofValue field.2).evaluate = some field.2.sorted)
    (sofar : List (String × Json)) :
    Document.evaluateFields (Document.ofFields fields) sofar =
      some (insertFields (sortedFields fields) sofar) := by
  induction fields generalizing sofar with
  | nil => rfl
  | cons field fields ih =>
    obtain ⟨first, others⟩ := List.forall_mem_cons.1 each
    rw [Document.ofFields, Document.evaluateFields, first, sortedFields]
    exact ih others _

theorem evaluate_ofValue (j : Json) : (Document.ofValue j).evaluate = some j.sorted := by
  induction j using Json.induction with
  | null => rfl
  | bool value => rfl
  | number value => rfl
  | string value => rfl
  | array items each =>
    rw [Document.ofValue, Document.evaluate, evaluateItems_ofItems each, sorted]
    rfl
  | object fields each =>
    rw [Document.ofValue, Document.evaluate, evaluateFields_ofFields each, sorted]
    rfl

/-- The line of a value is read as the value with its fields sorted. -/
theorem read?_line_sorted {j : Json} (integral : j.Integral)
    (shallow : (Document.ofValue j).depth ≤ Document.depthLimit) :
    Json.read? j.line = some j.sorted := by
  rw [Json.read?, read?_line integral, Option.bind_eq_bind, Option.bind_some, Document.value?,
    if_pos shallow]
  exact evaluate_ofValue j

/-! ## Distinct keys -/

theorem insertField_perm {key : String} {fields : List (String × Json)}
    (fresh : key ∉ fields.map Prod.fst) (value : Json) :
    (insertField key value fields).Perm ((key, value) :: fields) := by
  induction fields with
  | nil => exact .refl _
  | cons field fields ih =>
    have other : key ≠ field.1 := List.ne_of_not_mem_cons fresh
    rw [insertField, if_neg other]
    split_ifs with before
    · exact .refl _
    · exact ((ih (List.not_mem_of_not_mem_cons fresh)).cons field).trans (.swap _ _ _)

/-- Fields with distinct keys are all kept. -/
theorem insertFields_perm {fields sofar : List (String × Json)}
    (distinct : ((fields ++ sofar).map Prod.fst).Nodup) :
    (insertFields fields sofar).Perm (fields ++ sofar) := by
  induction fields generalizing sofar with
  | nil => exact .refl _
  | cons field fields ih =>
    -- The key is new to what is there so far, so nothing is overwritten.
    have fresh : field.1 ∉ sofar.map Prod.fst := by
      intro mem
      have later : field.1 ∉ (fields ++ sofar).map Prod.fst := (List.nodup_cons.1 distinct).1
      rw [List.map_append] at later
      exact later (List.mem_append_right _ mem)
    have put : (insertField field.1 field.2 sofar).Perm (field :: sofar) :=
      insertField_perm fresh field.2
    have same : (fields ++ insertField field.1 field.2 sofar).Perm (field :: fields ++ sofar) :=
      (put.append_left fields).trans List.perm_middle
    exact (ih ((same.map Prod.fst).nodup_iff.2 distinct)).trans same

theorem field?_of_mem {fields : List (String × Json)} (distinct : (fields.map Prod.fst).Nodup) :
    ∀ field ∈ fields, field? field.1 (.object fields) = some field.2 := by
  intro field mem
  rw [field?]
  induction fields with
  | nil => cases mem
  | cons first fields ih =>
    obtain ⟨fresh, distinct⟩ := List.nodup_cons.1 distinct
    -- The field stands first, or behind a field with another key.
    rcases List.mem_cons.1 mem with rfl | mem
    · rw [List.find?_cons_of_pos (by simp), Option.map_some]
    · have other : first.1 ≠ field.1 := fun same => fresh (same ▸ List.mem_map_of_mem mem)
      rw [List.find?_cons_of_neg (by simpa using other)]
      exact ih distinct mem

theorem field?_of_not_mem {fields : List (String × Json)} {key : String}
    (missing : key ∉ fields.map Prod.fst) : field? key (.object fields) = none := by
  have none : fields.find? (·.1 = key) = none :=
    List.find?_eq_none.2 fun field mem => by
      simpa using fun same : field.1 = key => missing (same ▸ List.mem_map_of_mem mem)
  rw [field?, none, Option.map_none]

/-! ## Ordered keys -/

/-- A key behind all others is put at the end. -/
theorem insertField_of_behind {key : String} {fields : List (String × Json)}
    (behind : ∀ field ∈ fields, ¬key < field.1 ∧ key ≠ field.1) (value : Json) :
    insertField key value fields = fields ++ [(key, value)] := by
  induction fields with
  | nil => rfl
  | cons field fields ih =>
    obtain ⟨⟨later, other⟩, others⟩ := List.forall_mem_cons.1 behind
    rw [insertField, if_neg later, if_neg other, ih others, List.cons_append]

theorem insertFields_of_ordered {fields sofar : List (String × Json)}
    (ordered : ((sofar ++ fields).map Prod.fst).Pairwise fun k l => ¬l < k ∧ l ≠ k) :
    insertFields fields sofar = sofar ++ fields := by
  induction fields generalizing sofar with
  | nil => exact (List.append_nil sofar).symm
  | cons field fields ih =>
    have split : (sofar ++ [field]) ++ fields = sofar ++ field :: fields := by simp
    -- Everything so far has a smaller key, so the field goes to the end.
    have behind : ∀ f ∈ sofar, ¬field.1 < f.1 ∧ field.1 ≠ f.1 := by
      rw [List.map_append, List.pairwise_append] at ordered
      exact fun f mem => ordered.2.2 f.1 (List.mem_map_of_mem mem) field.1 (.head _)
    have put : insertField field.1 field.2 sofar = sofar ++ [field] :=
      insertField_of_behind behind field.2
    rw [← split] at ordered ⊢
    rw [← ih ordered, insertFields, insertFields, List.foldl_cons, put]

/-- An object with its keys in order is sorted when its values are. -/
theorem sorted_object {fields : List (String × Json)}
    (ordered : (fields.map Prod.fst).Pairwise fun k l => ¬l < k ∧ l ≠ k)
    (each : ∀ field ∈ fields, field.2.sorted = field.2) :
    (Json.object fields).sorted = .object fields := by
  have values : sortedFields fields = fields := by
    have same : ∀ field ∈ fields, (field.1, field.2.sorted) = field := fun field mem =>
      Prod.ext rfl (each field mem)
    rw [sortedFields_eq_map, List.map_congr_left same, List.map_id']
  have kept : insertFields fields [] = [] ++ fields := insertFields_of_ordered ordered
  rw [sorted, values, kept, List.nil_append]

/-! ## Records -/

section Records

variable {fields : List (String × Option Json)}

/-- The fields of a record that are written. -/
def written (fields : List (String × Option Json)) : List (String × Json) :=
  fields.filterMap fun f => f.2.map (f.1, ·)

/-- The fields of a record with their values sorted. -/
def sortedOptions (fields : List (String × Option Json)) : List (String × Option Json) :=
  fields.map fun field => (field.1, field.2.map sorted)

theorem mem_written {key : String} {value : Json} :
    (key, value) ∈ written fields ↔ (key, some value) ∈ fields := by
  simp only [written, List.mem_filterMap, Option.map_eq_some_iff, Prod.mk.injEq]
  constructor
  · rintro ⟨⟨name, slot⟩, mem, _, rfl, rfl, rfl⟩
    exact mem
  · exact fun mem => ⟨_, mem, value, rfl, rfl, rfl⟩

theorem keys_written : ((written fields).map Prod.fst).Sublist (fields.map Prod.fst) := by
  induction fields with
  | nil => exact .refl _
  | cons field fields ih =>
    obtain ⟨name, slot⟩ := field
    cases slot with
    | none => exact ih.cons name
    | some value => exact ih.cons_cons name

theorem keys_sortedOptions : (sortedOptions fields).map Prod.fst = fields.map Prod.fst := by
  rw [sortedOptions, List.map_map]
  rfl

theorem sortedFields_written : sortedFields (written fields) = written (sortedOptions fields) := by
  rw [sortedFields_eq_map, written, written, sortedOptions, List.map_filterMap, List.filterMap_map]
  congr 1
  funext field
  cases slot : field.2 <;> simp [slot]

/-- The sorted form of a record has its values sorted, and its fields in another order. -/
theorem exists_sorted_record (distinct : (fields.map Prod.fst).Nodup) :
    ∃ others, (record fields).sorted = .object others ∧ (others.map Prod.fst).Nodup ∧
      others.Perm (written (sortedOptions fields)) := by
  have keys : ((written (sortedOptions fields)).map Prod.fst).Nodup := by
    rw [← keys_sortedOptions] at distinct
    exact distinct.sublist keys_written
  have kept : (insertFields (written (sortedOptions fields)) []).Perm
      (written (sortedOptions fields)) := by
    have all := @insertFields_perm (written (sortedOptions fields)) []
    rw [List.append_nil] at all
    exact all keys
  refine ⟨_, ?_, (kept.map Prod.fst).nodup_iff.2 keys, kept⟩
  rw [record, sorted, ← written, sortedFields_written]

/-- A name stands for the same value as before. -/
theorem field?_sorted_record (distinct : (fields.map Prod.fst).Nodup) :
    ∀ field ∈ fields, field? field.1 (record fields).sorted = field.2.map sorted := by
  intro field mem
  obtain ⟨others, same, keys, perm⟩ := exists_sorted_record distinct
  have sorted_mem : (field.1, field.2.map sorted) ∈ sortedOptions fields :=
    List.mem_map_of_mem mem
  rw [same]
  cases slot : field.2.map sorted with
  | some value =>
    rw [slot, ← mem_written, ← perm.mem_iff] at sorted_mem
    exact field?_of_mem keys _ sorted_mem
  -- Were the key there, it would belong to another field of the same name.
  | none =>
    refine field?_of_not_mem fun found => ?_
    obtain ⟨⟨_, value⟩, inside, rfl⟩ := List.mem_map.1 found
    rw [perm.mem_iff, mem_written] at inside
    have one : (field.1, field.2.map sorted) = (field.1, some value) := by
      rw [← keys_sortedOptions] at distinct
      exact List.inj_on_of_nodup_map distinct sorted_mem inside rfl
    rw [slot] at one
    cases one

/-- The values of the names are the same as before, each sorted. -/
theorem slots?_sorted_record {names : List String} (named : fields.map Prod.fst = names)
    (distinct : names.Nodup) (needed : Nat) :
    Schema.slots? names needed (.ofValue (record fields).sorted) =
      some (fields.map fun field => field.2.map fun j => Document.ofValue j.sorted) := by
  obtain ⟨others, same, -, perm⟩ := exists_sorted_record (named ▸ distinct)
  have plain := Schema.slots?_record (keys_sortedOptions.trans named) distinct needed
  -- Sorting moves the fields about, and the reader does not look at their order.
  have permuted : (Document.ofFields others).Perm
      (Document.ofFields (written (sortedOptions fields))) := by
    rw [Document.ofFields_eq_map, Document.ofFields_eq_map]
    exact perm.map _
  rw [Schema.slots?_eq_some_iff] at plain
  rw [same, Schema.slots?_eq_some_iff]
  have slots : (sortedOptions fields).map (fun field => field.2.map Document.ofValue) =
      fields.map fun field => field.2.map fun j => Document.ofValue j.sorted := by
    rw [sortedOptions, List.map_map]
    refine List.map_congr_left fun field _ => ?_
    exact Option.map_map ..
  rw [slots] at plain
  exact plain.perm permuted

end Records

/-! ## Records read back

A record that was sorted is read back by the same readers, since they go by names. What is asked of
each reader is only that it reads the sorted form of a value. -/

/-- Values that are read back from their sorted form. -/
structure ReadsSorted {α : Type} (encode : α → Json) (read : Document → Option α) : Prop where
  back : ∀ a, read (.ofValue (encode a).sorted) = some a
  absent : read .null = none

/-- A value without fields is its own sorted form. -/
theorem ReadsSorted.of_readsBack {α : Type} {encode : α → Json} {read : Document → Option α}
    (codec : ReadsBack encode read) (plain : ∀ a, (encode a).sorted = encode a) :
    ReadsSorted encode read where
  back a := by
    rw [plain]
    exact codec.back a
  absent := codec.absent

/-- The next field of a record is read, and then the rest of it. -/
theorem Schema.read_next {α β : Type} {x : Option α} {f : α → Option β} {a : α} {b : β}
    (next : x = some a) (rest : f a = some b) : x >>= f = some b := by
  rw [next]
  exact rest

namespace ReadsSorted

variable {α : Type} {encode : α → Json} {read : Document → Option α}

theorem required?_field (codec : ReadsSorted encode read) (name : String) (a : α) :
    Schema.required? read ((field name (encode a)).2.map fun j => Document.ofValue j.sorted) =
      some a :=
  codec.back a

theorem absentOr?_optionalField (codec : ReadsSorted encode read) (name : String)
    (value : Option α) :
    Schema.absentOr? read
      ((optionalField name encode value).2.map fun j => Document.ofValue j.sorted) =
        some value := by
  cases value with
  | none => rfl
  | some a => exact Schema.optional?_of_present codec.absent (codec.back a)

/-- A record is read back from its sorted form when its values are, each under its own name. -/
theorem record {fields : α → List (String × Option Json)} {names : List String} {needed : Nat}
    {build : List (Option Document) → Option α} (named : ∀ a, (fields a).map Prod.fst = names)
    (distinct : names.Nodup)
    (built : ∀ a, build ((fields a).map fun field => field.2.map fun j =>
      Document.ofValue j.sorted) = some a) :
    ReadsSorted (fun a => .record (fields a))
      (fun d => Schema.slots? names needed d >>= build) where
  back a := by
    rw [slots?_sorted_record (named a) distinct, Option.bind_eq_bind, Option.bind_some, built]
  absent := rfl

end ReadsSorted

/-! ## Depth -/

theorem depth_object_le {fields : List (String × Json)} {bound : Nat}
    (each : ∀ field ∈ fields, (Document.ofValue field.2).depth ≤ bound) :
    (Document.ofValue (.object fields)).depth ≤ bound + 1 := by
  have inside : Document.depthOfFields (Document.ofFields fields) ≤ bound := by
    induction fields with
    | nil => exact Nat.zero_le bound
    | cons field fields ih =>
      obtain ⟨first, others⟩ := List.forall_mem_cons.1 each
      exact Nat.max_le.2 ⟨first, ih others⟩
  exact Nat.succ_le_succ inside

/-- A record whose parts are no deeper than a bound is at most one deeper. -/
theorem depth_record_le {fields : List (String × Option Json)} {bound : Nat}
    (each : fields.Forall fun field => ∀ j ∈ field.2, (Document.ofValue j).depth ≤ bound) :
    (Document.ofValue (.record fields)).depth ≤ bound + 1 := by
  refine depth_object_le fun ⟨key, value⟩ mem => ?_
  exact List.forall_iff_forall_mem.1 each _ (mem_written.1 mem) value rfl

end FormatConformance.Json
