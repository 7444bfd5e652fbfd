import FormatConformance.Proofs.Json.Grammar
import FormatConformance.Proofs.Json.Sorting
import Mathlib.Data.String.Basic

/-!
# The value of a text

`Means` says which value a document has, part by part and without the accumulator of the reader: a
string or a number that stands for nothing has none, and an object has the last value of each key
with the keys in order (`Latest`). A document has one value at most, and the reader finds it
(`evaluate_eq_some_iff`). Together with the grammar this says which texts are read as a value
(`read?_eq_some_iff`), and of a value that is read the keys of every object are in order, none of
them twice (`Ordered`).
-/

namespace FormatConformance.Json

/-! ## The last value of a key

An object in a text may name a key more than once. What it comes to is said by its last mention,
without the order in which the reader puts the fields in. -/

/-- A value that stands under a key, which does not come again behind it. -/
def IsLast (fields : List (String × Json)) (name : String) (value : Json) : Prop :=
  ∃ before behind, fields = before ++ (name, value) :: behind ∧ name ∉ behind.map Prod.fst

/-- The last value of each key, with the keys in order. -/
structure Latest (fields latest : List (String × Json)) : Prop where
  ordered : latest.Pairwise (·.1 < ·.1)
  mem_iff : ∀ name value, (name, value) ∈ latest ↔ IsLast fields name value

theorem isLast_concat {fields : List (String × Json)} {key name : String} {last value : Json} :
    IsLast (fields ++ [(key, last)]) name value ↔
      name = key ∧ value = last ∨ name ≠ key ∧ IsLast fields name value := by
  constructor
  · rintro ⟨before, behind, split, fresh⟩
    rcases List.eq_nil_or_concat behind with rfl | ⟨behind, field, rfl⟩
    · obtain ⟨-, same⟩ := List.append_inj' split rfl
      obtain ⟨rfl, rfl⟩ := Prod.mk.inj (List.cons.inj same).1
      exact .inl ⟨rfl, rfl⟩
    · -- The last field is another one, so the key is looked for before it.
      rw [List.concat_eq_append, ← List.cons_append, ← List.append_assoc] at split
      obtain ⟨rfl, same⟩ := List.append_inj' split rfl
      obtain rfl := (List.cons.inj same).1
      rw [List.concat_eq_append, List.map_append, List.mem_append, not_or] at fresh
      exact .inr ⟨by simpa using fresh.2, before, behind, rfl, fresh.1⟩
  · rintro (⟨rfl, rfl⟩ | ⟨other, before, behind, rfl, fresh⟩)
    · exact ⟨fields, [], rfl, List.not_mem_nil⟩
    · refine ⟨before, behind ++ [(key, last)], by simp, ?_⟩
      rw [List.map_append, List.mem_append, not_or]
      exact ⟨fresh, by simpa using other⟩

section Insertion

variable {fields : List (String × Json)} (ordered : fields.Pairwise (·.1 < ·.1))
include ordered

theorem mem_insertField {key name : String} {last value : Json} :
    (name, value) ∈ insertField key last fields ↔
      name = key ∧ value = last ∨ name ≠ key ∧ (name, value) ∈ fields := by
  induction fields with
  | nil => simp [insertField]
  | cons first fields ih =>
    obtain ⟨least, rest⟩ := List.pairwise_cons.1 ordered
    -- In ascending order a key stands there once.
    have behind (value : Json) : (first.1, value) ∉ fields := fun mem =>
      lt_irrefl first.1 (least (first.1, value) mem)
    rw [insertField]
    split_ifs with before same
    · have other : (name, value) ∈ first :: fields → name ≠ key := by
        rintro mem rfl
        rcases List.mem_cons.1 mem with rfl | mem
        · exact lt_irrefl _ before
        · exact lt_asymm before (least _ mem)
      rw [List.mem_cons, Prod.mk.injEq]
      exact or_congr_right ⟨fun mem => ⟨other mem, mem⟩, And.right⟩
    · -- The value of the key is replaced, and the others stay.
      subst same
      rw [List.mem_cons, Prod.mk.injEq, List.mem_cons]
      refine or_congr_right ⟨fun mem => ⟨?_, .inr mem⟩, ?_⟩
      · rintro rfl
        exact behind value mem
      · rintro ⟨other, rfl | mem⟩
        · exact absurd rfl other
        · exact mem
    · rw [List.mem_cons, List.mem_cons, ih rest]
      constructor
      · rintro (rfl | new | ⟨other, mem⟩)
        · exact .inr ⟨Ne.symm same, .inl rfl⟩
        · exact .inl new
        · exact .inr ⟨other, .inr mem⟩
      · rintro (new | ⟨other, rfl | mem⟩)
        · exact .inr (.inl new)
        · exact .inl rfl
        · exact .inr (.inr ⟨other, mem⟩)

theorem ordered_insertField (key : String) (last : Json) :
    (insertField key last fields).Pairwise (·.1 < ·.1) := by
  induction fields with
  | nil => exact List.pairwise_singleton _ _
  | cons first fields ih =>
    obtain ⟨least, rest⟩ := List.pairwise_cons.1 ordered
    rw [insertField]
    split_ifs with before same
    · refine List.pairwise_cons.2 ⟨fun field mem => ?_, ordered⟩
      rcases List.mem_cons.1 mem with rfl | mem
      · exact before
      · exact before.trans (least field mem)
    · subst same
      exact List.pairwise_cons.2 ⟨least, rest⟩
    · -- What is inserted behind the first key is greater than it, and so is all that was there.
      refine List.pairwise_cons.2 ⟨fun field mem => ?_, ih rest⟩
      rcases (mem_insertField rest).1 mem with ⟨new, -⟩ | ⟨-, mem⟩
      · rw [new]
        exact lt_of_le_of_ne (not_lt.1 before) (Ne.symm same)
      · exact least field mem

end Insertion

/-- Putting fields one after the other into an object keeps the last value of each key. -/
theorem latest_insertFields (fields : List (String × Json)) :
    Latest fields (insertFields fields []) := by
  induction fields using List.reverseRecOn with
  | nil => exact ⟨.nil, fun name value => by simp [insertFields, IsLast]⟩
  | append_singleton fields last ih =>
    have put : insertFields (fields ++ [last]) [] =
        insertField last.1 last.2 (insertFields fields []) := List.foldl_concat ..
    rw [put]
    refine ⟨ordered_insertField ih.ordered last.1 last.2, fun name value => ?_⟩
    rw [mem_insertField ih.ordered, ih.mem_iff, isLast_concat]

theorem Latest.unique {fields latest latest' : List (String × Json)} (first : Latest fields latest)
    (second : Latest fields latest') : latest = latest' := by
  refine List.Perm.eq_of_pairwise (fun _ _ _ _ before behind => absurd behind (lt_asymm before))
    first.ordered second.ordered ?_
  have distinct {l : List (String × Json)} (ordered : l.Pairwise (·.1 < ·.1)) : l.Nodup :=
    ordered.imp fun before same => before.ne (congrArg Prod.fst same)
  rw [List.perm_ext_iff_of_nodup (distinct first.ordered) (distinct second.ordered)]
  exact fun field => (first.mem_iff field.1 field.2).trans (second.mem_iff field.1 field.2).symm

theorem latest_iff {fields latest : List (String × Json)} :
    Latest fields latest ↔ insertFields fields [] = latest := by
  constructor
  · exact (latest_insertFields fields).unique
  · rintro rfl
    exact latest_insertFields fields

/-! ## The value of a document -/

/-- The value of a document. -/
inductive Means : Document → Json → Prop
  | null : Means .null .null
  | bool (value : Bool) : Means (.bool value) (.bool value)
  | number (value : Number) : Means (.number (some value)) (.number value)
  | string (value : String) : Means (.string (some value)) (.string value)
  | array {parts : List (Document × Json)} (each : ∀ part ∈ parts, Means part.1 part.2) :
    Means (.array (parts.map Prod.fst)) (.array (parts.map Prod.snd))
  | object {parts : List (String × Document × Json)} {latest : List (String × Json)}
    (each : ∀ part ∈ parts, Means part.2.1 part.2.2)
    (last : Latest (parts.map fun part => (part.1, part.2.2)) latest) :
    Means (.object (parts.map fun part => (some part.1, part.2.1))) (.object latest)

theorem means_of_evaluateItems {items : List Document} {values : List Json}
    (each : ∀ item ∈ items, ∀ j, item.evaluate = some j → Means item j)
    (found : Document.evaluateItems items = some values) :
    ∃ parts : List (Document × Json), parts.map Prod.fst = items ∧ parts.map Prod.snd = values ∧
      ∀ part ∈ parts, Means part.1 part.2 := by
  induction items generalizing values with
  | nil =>
    cases found
    exact ⟨[], rfl, rfl, nofun⟩
  | cons item items ih =>
    obtain ⟨first, others⟩ := List.forall_mem_cons.1 each
    obtain ⟨j, head, found⟩ := Option.bind_eq_some_iff.1 found
    obtain ⟨rest, tail, same⟩ := Option.bind_eq_some_iff.1 found
    cases same
    obtain ⟨parts, rfl, rfl, mean⟩ := ih others tail
    exact ⟨(item, j) :: parts, rfl, rfl, List.forall_mem_cons.2 ⟨first j head, mean⟩⟩

theorem means_of_evaluateFields {fields : List (Option String × Document)}
    {sofar values : List (String × Json)}
    (each : ∀ field ∈ fields, ∀ j, field.2.evaluate = some j → Means field.2 j)
    (found : Document.evaluateFields fields sofar = some values) :
    ∃ parts : List (String × Document × Json),
      (parts.map fun part => (some part.1, part.2.1)) = fields ∧
      insertFields (parts.map fun part => (part.1, part.2.2)) sofar = values ∧
      ∀ part ∈ parts, Means part.2.1 part.2.2 := by
  induction fields generalizing sofar with
  | nil =>
    cases found
    exact ⟨[], rfl, rfl, nofun⟩
  | cons field fields ih =>
    obtain ⟨first, others⟩ := List.forall_mem_cons.1 each
    obtain ⟨key, known, found⟩ := Option.bind_eq_some_iff.1 found
    obtain ⟨j, head, found⟩ := Option.bind_eq_some_iff.1 found
    obtain ⟨parts, rfl, put, mean⟩ := ih others found
    refine ⟨(key, field.2, j) :: parts, ?_, put, List.forall_mem_cons.2 ⟨first j head, mean⟩⟩
    -- A key without a text would have ended the reading.
    rw [List.map_cons, ← known]

theorem means_of_evaluate {d : Document} {j : Json} (found : d.evaluate = some j) : Means d j := by
  induction d using Document.induction generalizing j with
  | null =>
    cases found
    exact .null
  | bool value =>
    cases found
    exact .bool value
  | number value =>
    obtain ⟨v, rfl, rfl⟩ := Option.map_eq_some_iff.1 found
    exact .number v
  | string value =>
    obtain ⟨s, rfl, rfl⟩ := Option.map_eq_some_iff.1 found
    exact .string s
  | array items each =>
    obtain ⟨values, inside, rfl⟩ := Option.map_eq_some_iff.1 found
    obtain ⟨parts, rfl, rfl, mean⟩ :=
      means_of_evaluateItems (fun item mem _ => each item mem) inside
    exact .array mean
  | object fields each =>
    obtain ⟨values, inside, rfl⟩ := Option.map_eq_some_iff.1 found
    obtain ⟨parts, rfl, put, mean⟩ :=
      means_of_evaluateFields (fun field mem _ => each field mem) inside
    exact .object mean (latest_iff.2 put)

theorem evaluateItems_of_each {parts : List (Document × Json)}
    (each : ∀ part ∈ parts, part.1.evaluate = some part.2) :
    Document.evaluateItems (parts.map Prod.fst) = some (parts.map Prod.snd) := by
  induction parts with
  | nil => rfl
  | cons part parts ih =>
    obtain ⟨first, others⟩ := List.forall_mem_cons.1 each
    rw [List.map_cons, Document.evaluateItems, first, ih others]
    rfl

theorem evaluateFields_of_each {parts : List (String × Document × Json)}
    (each : ∀ part ∈ parts, part.2.1.evaluate = some part.2.2) (sofar : List (String × Json)) :
    Document.evaluateFields (parts.map fun part => (some part.1, part.2.1)) sofar =
      some (insertFields (parts.map fun part => (part.1, part.2.2)) sofar) := by
  induction parts generalizing sofar with
  | nil => rfl
  | cons part parts ih =>
    obtain ⟨first, others⟩ := List.forall_mem_cons.1 each
    rw [List.map_cons, Document.evaluateFields, first]
    exact ih others _

theorem evaluate_of_means {d : Document} {j : Json} (means : Means d j) :
    d.evaluate = some j := by
  induction means with
  | null => rfl
  | bool value => rfl
  | number value => rfl
  | string value => rfl
  | array _ each => rw [Document.evaluate, evaluateItems_of_each each, Option.map_some]
  | object _ last each =>
    rw [Document.evaluate, evaluateFields_of_each each, Option.map_some, latest_iff.1 last]

theorem evaluate_eq_some_iff {d : Document} {j : Json} : d.evaluate = some j ↔ Means d j :=
  ⟨means_of_evaluate, evaluate_of_means⟩

/-! ## Keys in order -/

/-- Values as they are read: the keys of every object are in order, none of them twice. -/
inductive Ordered : Json → Prop
  | null : Ordered .null
  | bool (value : Bool) : Ordered (.bool value)
  | number (value : Number) : Ordered (.number value)
  | string (value : String) : Ordered (.string value)
  | array {items : List Json} (each : ∀ item ∈ items, Ordered item) : Ordered (.array items)
  | object {fields : List (String × Json)} (ordered : fields.Pairwise (·.1 < ·.1))
    (each : ∀ field ∈ fields, Ordered field.2) : Ordered (.object fields)

theorem IsLast.mem {fields : List (String × Json)} {name : String} {value : Json}
    (last : IsLast fields name value) : (name, value) ∈ fields := by
  obtain ⟨before, behind, rfl, -⟩ := last
  exact List.mem_append_right _ (.head _)

theorem Means.ordered {d : Document} {j : Json} (means : Means d j) : Ordered j := by
  induction means with
  | null => exact .null
  | bool value => exact .bool value
  | number value => exact .number value
  | string value => exact .string value
  | array _ each => exact .array (List.forall_mem_map.2 each)
  | @object parts latest _ last each =>
    refine .object last.ordered fun field mem => ?_
    have inside := ((last.mem_iff field.1 field.2).1 mem).mem
    obtain ⟨part, among, same⟩ := List.mem_map.1 inside
    rw [← (Prod.mk.inj same).2]
    exact each part among

/-- A value with its keys in order is sorted. -/
theorem Ordered.sorted_eq {j : Json} (ordered : Ordered j) : j.sorted = j := by
  induction ordered with
  | null => rfl
  | bool value => rfl
  | number value => rfl
  | string value => rfl
  | @array items _ each =>
    rw [sorted, sortedItems_eq_map, List.map_congr_left each, List.map_id']
  | @object fields ordered _ each =>
    refine sorted_object ?_ each
    exact List.pairwise_map.2 (ordered.imp fun before => ⟨lt_asymm before, before.ne'⟩)

/-! ## The value of a text -/

/-- A text that spells a document with a value, not nested too deeply. -/
def Denotes (text : String) (j : Json) : Prop :=
  ∃ d, Document.Spelling d text.toList ∧ d.depth ≤ Document.depthLimit ∧ Means d j

/-- The reader accepts the texts that have a value, and gives the value. -/
theorem read?_eq_some_iff {text : String} {j : Json} : read? text = some j ↔ Denotes text j := by
  rw [read?]
  simp only [Option.bind_eq_bind, Option.bind_eq_some_iff, Document.read?_eq_some_iff, Denotes,
    Document.value?, Option.ite_none_right_eq_some, evaluate_eq_some_iff]

theorem Denotes.unique {text : String} {j j' : Json} (first : Denotes text j)
    (second : Denotes text j') : j = j' := by
  rw [← read?_eq_some_iff] at first second
  exact Option.some.inj (first.symm.trans second)

theorem Denotes.ordered {text : String} {j : Json} (denotes : Denotes text j) : Ordered j := by
  obtain ⟨_, _, _, means⟩ := denotes
  exact means.ordered

end FormatConformance.Json
