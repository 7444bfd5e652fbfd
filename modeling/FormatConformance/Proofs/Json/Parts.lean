import FormatConformance.Proofs.Json.Values

/-!
# The parts of a value

`Part` says what stands in a value at any depth, so that a claim on all numbers of a value can be
made without a recursion of its own. A numeral beyond 64 bits is read as a double, so the integers
of a value that was read have 64 bits, and any part of it without doubles can be written and read
back (`Denotes.integral_of_part`). Nor is the value deeper than its text (`Denotes.depth_le`), in
which of two fields with one key only the last one counts.
-/

namespace FormatConformance.Json

/-- What stands in a value, at any depth. -/
inductive Part (p : Json) : Json → Prop
  | self : Part p p
  | item {items : List Json} {item : Json} (mem : item ∈ items) (inside : Part p item) :
    Part p (.array items)
  | field {fields : List (String × Json)} {name : String} {value : Json}
    (mem : (name, value) ∈ fields) (inside : Part p value) : Part p (.object fields)

/-- No number in a value is a double. -/
def Floatless (j : Json) : Prop :=
  ∀ bits, ¬Part (.number (.double bits)) j

theorem Part.trans {n p j : Json} (first : Part n p) (second : Part p j) : Part n j := by
  induction second with
  | self => exact first
  | item mem _ ih => exact .item mem ih
  | field mem _ ih => exact .field mem ih

theorem integral_of_parts {j : Json} (each : ∀ n, Part (.number n) j → n.Integral) :
    j.Integral := by
  induction j using Json.induction with
  | null => exact .null
  | bool value => exact .bool value
  | number value => exact .number (each value .self)
  | string value => exact .string value
  | array items ih => exact .array fun item mem => ih item mem fun n part => each n (.item mem part)
  | object fields ih =>
    exact .object fun field mem => ih field mem fun n part => each n (.field mem part)

theorem Integral.of_part {p j : Json} (integral : j.Integral) (part : Part p j) : p.Integral := by
  induction part with
  | self => exact integral
  | item mem _ ih =>
    cases integral with
    | array each => exact ih (each _ mem)
  | field mem _ ih =>
    cases integral with
    | object each => exact ih (each _ mem)

/-- An integer is no double. -/
theorem Integral.floatless {j : Json} (integral : j.Integral) : j.Floatless := by
  intro bits part
  cases integral.of_part part with
  | number double => exact double

/-! ## Integers -/

namespace Numeral

theorem gather_le {limit sofar : Nat} (within : sofar ≤ limit) (text : List Char) :
    (gather limit sofar text).1 ≤ limit := by
  induction text generalizing sofar with
  | nil => exact within
  | cons c text ih =>
    rw [gather]
    split_ifs with fits
    · exact ih fits
    · exact within

theorem doubleOf_ne_int (negative : Bool) (significand : Nat) (exponent value : Int) :
    doubleOf negative significand exponent ≠ some (.int value) := by
  intro same
  obtain ⟨_, -, double⟩ := Option.map_eq_some_iff.1 same
  cases double

theorem double?_ne_int (n : Numeral) (value : Int) : n.double? ≠ some (.int value) := by
  unfold double?
  obtain ⟨whole, dropped⟩ := gather bound 0 n.whole
  obtain ⟨significand, unread⟩ := gather bound whole (n.fraction.getD [])
  cases n.exponent with
  | none => exact doubleOf_ne_int _ _ _ value
  | some exponent =>
    dsimp only
    split
    · exact doubleOf_ne_int _ _ _ value
    · split
      · exact nofun
      · exact doubleOf_ne_int _ _ _ value

/-- A numeral that stands for an integer stands for one of 64 bits. -/
theorem integral_number? {n : Numeral} {value : Int} (found : n.number? = some (.int value)) :
    (Number.int value).Integral := by
  have fits := gather_le (Nat.zero_le bound) n.whole
  unfold number? at found
  generalize gather bound 0 n.whole = gathered at found fits
  -- With a fraction or an exponent the number is a double, whatever it comes to.
  by_cases fractional : n.fraction.isSome || n.exponent.isSome
  · rw [if_pos fractional] at found
    exact absurd found (n.double?_ne_int value)
  rw [if_neg fractional] at found
  -- Digits that were left unread have passed the bound, and then it is a double as well.
  obtain ⟨magnitude, _ | ⟨_, _⟩⟩ := gathered
  · unfold bound at fits
    dsimp only at found fits
    split_ifs at found with negative range
    · cases found
      exact ⟨by omega, by omega⟩
    · exact absurd found (doubleOf_ne_int _ _ _ value)
    · cases found
      exact ⟨by omega, by omega⟩
  · exact absurd found (n.double?_ne_int value)

end Numeral

namespace Document

/-- Every integer in a document has 64 bits. -/
inductive Fits : Document → Prop
  | null : Fits .null
  | bool (value : Bool) : Fits (.bool value)
  | number {value : Option Number}
    (integral : ∀ i, value = some (.int i) → (Number.int i).Integral) : Fits (.number value)
  | string (value : Option String) : Fits (.string value)
  | array {items : List Document} (each : ∀ item ∈ items, Fits item) : Fits (.array items)
  | object {fields : List (Option String × Document)} (each : ∀ field ∈ fields, Fits field.2) :
    Fits (.object fields)

theorem Spelling.fits {d : Document} {text : List Char} (spelling : Spelling d text) : d.Fits := by
  induction spelling with
  | null => exact .null
  | bool value => exact .bool value
  | number written => exact .number fun _ found => Numeral.integral_number? found
  | string => exact .string _
  | emptyArray => exact .array nofun
  | array _ ih => exact .array (List.forall_mem_map.2 ih)
  | emptyObject => exact .object nofun
  | object _ _ _ ih => exact .object (List.forall_mem_map.2 ih)
  | padded _ _ _ ih => exact ih

end Document

theorem Means.integral {d : Document} {j : Json} (means : Means d j) (fits : d.Fits) {i : Int}
    (part : Part (.number (.int i)) j) : (Number.int i).Integral := by
  induction means with
  | null => cases part
  | bool => cases part
  | number value =>
    cases part
    cases fits with
    | number integral => exact integral i rfl
  | string => cases part
  | @array parts _ ih =>
    cases fits with
    | array fits =>
      cases part with
      | item mem inside =>
        obtain ⟨pair, among, rfl⟩ := List.mem_map.1 mem
        exact ih pair among (fits _ (List.mem_map_of_mem among)) inside
  | @object parts latest _ last ih =>
    cases fits with
    | object fits =>
      cases part with
      | field mem inside =>
        -- The field that is left in the value is one of the fields of the document.
        obtain ⟨pair, among, same⟩ := List.mem_map.1 ((last.mem_iff _ _).1 mem).mem
        cases same
        exact ih pair among (fits _ (List.mem_map_of_mem among)) inside

/-! ## Depth -/

namespace Document

theorem depthOfItems_le_iff {items : List Document} {bound : Nat} :
    depthOfItems items ≤ bound ↔ ∀ item ∈ items, item.depth ≤ bound := by
  induction items with
  | nil => simp [depthOfItems]
  | cons item items ih => rw [depthOfItems, Nat.max_le, ih, List.forall_mem_cons]

theorem depthOfFields_le_iff {fields : List (Option String × Document)} {bound : Nat} :
    depthOfFields fields ≤ bound ↔ ∀ field ∈ fields, field.2.depth ≤ bound := by
  induction fields with
  | nil => simp [depthOfFields]
  | cons field fields ih => rw [depthOfFields, Nat.max_le, ih, List.forall_mem_cons]

theorem depth_lt_of_mem_items {items : List Document} {item : Document} (mem : item ∈ items) :
    item.depth < (array items).depth :=
  Nat.lt_succ_of_le (depthOfItems_le_iff.1 le_rfl item mem)

theorem depth_lt_of_mem_fields {fields : List (Option String × Document)}
    {field : Option String × Document} (mem : field ∈ fields) :
    field.2.depth < (object fields).depth :=
  Nat.lt_succ_of_le (depthOfFields_le_iff.1 le_rfl field mem)

end Document

/-- The value of a document is no deeper than the document. -/
theorem Means.depth_le {d : Document} {j : Json} (means : Means d j) :
    (Document.ofValue j).depth ≤ d.depth := by
  induction means with
  | null => exact le_rfl
  | bool => exact le_rfl
  | number => exact le_rfl
  | string => exact le_rfl
  | @array parts _ ih =>
    refine Nat.succ_le_succ (Document.depthOfItems_le_iff.2 ?_)
    rw [Document.ofItems_eq_map, List.map_map]
    refine List.forall_mem_map.2 fun part among => ?_
    have inside := Document.depth_lt_of_mem_items (List.mem_map_of_mem (f := Prod.fst) among)
    exact (ih part among).trans (Nat.le_of_lt_succ inside)
  | @object parts latest _ last ih =>
    refine Nat.succ_le_succ (Document.depthOfFields_le_iff.2 ?_)
    rw [Document.ofFields_eq_map]
    refine List.forall_mem_map.2 fun field mem => ?_
    -- Fields that were overwritten only make the document deeper.
    obtain ⟨part, among, same⟩ := List.mem_map.1 ((last.mem_iff field.1 field.2).1 mem).mem
    have inside := Document.depth_lt_of_mem_fields
      (List.mem_map_of_mem (f := fun part => (some part.1, part.2.1)) among)
    rw [← (Prod.mk.inj same).2]
    exact (ih part among).trans (Nat.le_of_lt_succ inside)

/-- The value of a field is less deep than the object. -/
theorem depth_lt_of_mem_object {fields : List (String × Json)} {name : String} {value : Json}
    (mem : (name, value) ∈ fields) :
    (Document.ofValue value).depth < (Document.ofValue (.object fields)).depth := by
  have among : (some name, Document.ofValue value) ∈ Document.ofFields fields := by
    rw [Document.ofFields_eq_map]
    exact List.mem_map_of_mem mem
  exact Document.depth_lt_of_mem_fields among

/-! ## Values that were read

The parts of a value come from parts of the document that it was read from, so a property of every
number that the parser can make is a property of every number in a value. -/

section Read

variable {text : String} {j : Json} (denotes : Denotes text j)
include denotes

theorem Denotes.depth_le : (Document.ofValue j).depth ≤ Document.depthLimit := by
  obtain ⟨_, _, shallow, means⟩ := denotes
  exact means.depth_le.trans shallow

theorem Denotes.integral_of_part {p : Json} (part : Part p j) (floatless : p.Floatless) :
    p.Integral := by
  obtain ⟨_, spelling, _, means⟩ := denotes
  refine integral_of_parts fun n inside => ?_
  cases n with
  | int i => exact means.integral spelling.fits (inside.trans part)
  | double bits => exact absurd inside (floatless bits)

end Read

end FormatConformance.Json
