import FormatConformance.Ieee.Layout
import Mathlib.Algebra.Field.Rat
import Mathlib.Order.WithBot
import Mathlib.Tactic.Ring

/-!
# Bit patterns and the numbers they denote

A pattern is three fields put together, and is taken apart into the same fields (`fields_pattern`,
`pattern_fields`). A finite pattern denotes a whole number of the least unit of its layout
(`Fields.units`), so what patterns denote is compared in natural numbers. The units grow with the
exponent field (`Fields.units_lt_units`) and, within one exponent, with the fraction. So no two
patterns denote the same number with the same sign (`eq_of_denoted?_eq`), those apart that denote no
number at all.
-/

namespace FormatConformance.Ieee

variable {l : Layout}

/-! ## Fields -/

/-- A sign, an exponent and a fraction that fit into a pattern. -/
@[ext] structure Fields (l : Layout) where
  negative : Bool
  exponent : Nat
  fraction : Nat
  exponent_lt : exponent < 2 ^ l.exponentBits
  fraction_lt : fraction < 2 ^ l.fractionBits

/-- The fields of a pattern. -/
def Layout.fields (l : Layout) (bits : Nat) : Fields l where
  negative := l.isNegative bits
  exponent := l.exponentField bits
  fraction := l.fractionField bits
  exponent_lt := Nat.mod_lt _ (Nat.two_pow_pos _)
  fraction_lt := Nat.mod_lt _ (Nat.two_pow_pos _)

theorem Layout.signBit_eq (l : Layout) :
    l.signBit = 2 ^ l.exponentBits * 2 ^ l.fractionBits := by
  rw [← Nat.pow_add, Nat.add_comm]
  rfl

namespace Fields

/-- The pattern with these fields. -/
def pattern (f : Fields l) : Nat :=
  l.withSign f.negative (f.exponent * 2 ^ l.fractionBits + f.fraction)

variable (f : Fields l)

/-- The exponent and the fraction stay below the sign bit. -/
theorem magnitude_lt : f.exponent * 2 ^ l.fractionBits + f.fraction < l.signBit := by
  calc f.exponent * 2 ^ l.fractionBits + f.fraction
      < (f.exponent + 1) * 2 ^ l.fractionBits := by
        rw [Nat.succ_mul]
        exact Nat.add_lt_add_left f.fraction_lt _
    _ ≤ 2 ^ l.exponentBits * 2 ^ l.fractionBits := Nat.mul_le_mul_right _ f.exponent_lt
    _ = l.signBit := l.signBit_eq.symm

theorem isNegative_pattern : l.isNegative f.pattern = f.negative := by
  have small := f.magnitude_lt
  rw [Layout.isNegative, pattern, Layout.withSign]
  cases f.negative with
  | true => simp
  | false => simpa using small

theorem exponentField_pattern : l.exponentField f.pattern = f.exponent := by
  have positive : 0 < 2 ^ l.fractionBits := Nat.two_pow_pos _
  have magnitude : (f.exponent * 2 ^ l.fractionBits + f.fraction) / 2 ^ l.fractionBits =
      f.exponent := by
    rw [Nat.mul_comm, Nat.mul_add_div positive, Nat.div_eq_of_lt f.fraction_lt, Nat.add_zero]
  show f.pattern / 2 ^ l.fractionBits % 2 ^ l.exponentBits = f.exponent
  rw [pattern, Layout.withSign]
  -- The sign bit stands above the exponent, so the remainder drops it.
  split_ifs with negative
  · rw [l.signBit_eq, Nat.mul_comm, Nat.mul_add_div positive, magnitude, Nat.add_mod_left,
      Nat.mod_eq_of_lt f.exponent_lt]
  · rw [magnitude, Nat.mod_eq_of_lt f.exponent_lt]

theorem fractionField_pattern : l.fractionField f.pattern = f.fraction := by
  have magnitude : (f.exponent * 2 ^ l.fractionBits + f.fraction) % 2 ^ l.fractionBits =
      f.fraction := by
    rw [Nat.mul_add_mod_self_right, Nat.mod_eq_of_lt f.fraction_lt]
  show f.pattern % 2 ^ l.fractionBits = f.fraction
  rw [pattern, Layout.withSign]
  split_ifs with negative
  · rw [l.signBit_eq, Nat.mul_add_mod_self_right, magnitude]
  · exact magnitude

/-- A pattern is taken apart into the fields that it was made of. -/
theorem fields_pattern : l.fields f.pattern = f := by
  have negative := f.isNegative_pattern
  have exponent := f.exponentField_pattern
  have fraction := f.fractionField_pattern
  obtain ⟨_, _, _, _, _⟩ := f
  simp only [Layout.fields, negative, exponent, fraction]

theorem pattern_lt : f.pattern < 2 * l.signBit := by
  have small := f.magnitude_lt
  rw [pattern, Layout.withSign]
  split_ifs <;> omega

end Fields

/-- A pattern of the width of a layout is made of its fields. -/
theorem Layout.pattern_fields {bits : Nat} (fits : bits < 2 * l.signBit) :
    (l.fields bits).pattern = bits := by
  have positive : 0 < 2 ^ l.fractionBits := Nat.two_pow_pos _
  have parts : bits / 2 ^ l.fractionBits * 2 ^ l.fractionBits + bits % 2 ^ l.fractionBits = bits :=
    Nat.div_add_mod' bits _
  show l.withSign (l.signBit ≤ bits) (bits / 2 ^ l.fractionBits % 2 ^ l.exponentBits *
    2 ^ l.fractionBits + bits % 2 ^ l.fractionBits) = bits
  rw [l.signBit_eq] at fits ⊢
  -- The quotient by the fraction has the exponent with the sign bit above it, if that is set.
  by_cases negative : 2 ^ l.exponentBits * 2 ^ l.fractionBits ≤ bits
  · have least : 2 ^ l.exponentBits ≤ bits / 2 ^ l.fractionBits :=
      (Nat.le_div_iff_mul_le positive).2 negative
    have greatest : bits / 2 ^ l.fractionBits < 2 * 2 ^ l.exponentBits :=
      (Nat.div_lt_iff_lt_mul positive).2 (by rwa [Nat.mul_assoc])
    have exponent : bits / 2 ^ l.fractionBits % 2 ^ l.exponentBits =
        bits / 2 ^ l.fractionBits - 2 ^ l.exponentBits := by
      rw [Nat.mod_eq_sub_mod least, Nat.mod_eq_of_lt (by omega)]
    rw [decide_eq_true negative, Layout.withSign, if_pos rfl, exponent, Nat.sub_mul, l.signBit_eq]
    have within := Nat.mul_le_mul_right (2 ^ l.fractionBits) least
    omega
  · have below : bits / 2 ^ l.fractionBits < 2 ^ l.exponentBits :=
      (Nat.div_lt_iff_lt_mul positive).2 (Nat.not_le.1 negative)
    rw [decide_eq_false negative, Layout.withSign, if_neg Bool.false_ne_true,
      Nat.mod_eq_of_lt below, parts]

/-! ## Units -/

namespace Fields

/-- The number that a finite pattern denotes, without its sign and in units of the smallest. -/
def units (f : Fields l) : Nat :=
  if f.exponent = 0 then f.fraction
  else (2 ^ l.fractionBits + f.fraction) * 2 ^ (f.exponent - 1)

variable {f g : Fields l}

theorem units_lt (f : Fields l) : f.units < 2 ^ (l.fractionBits + f.exponent) := by
  have small := f.fraction_lt
  rw [units]
  -- A subnormal number has no leading bit, and then the exponent adds nothing.
  split_ifs with subnormal
  · simpa [subnormal] using small
  · have split : 2 ^ (l.fractionBits + f.exponent) =
        (2 ^ l.fractionBits + 2 ^ l.fractionBits) * 2 ^ (f.exponent - 1) := by
      rw [← Nat.two_mul, ← Nat.pow_succ', ← Nat.pow_add]
      congr 1
      omega
    rw [split]
    exact Nat.mul_lt_mul_of_pos_right (Nat.add_lt_add_left small _) (Nat.two_pow_pos _)

theorem le_units (normal : f.exponent ≠ 0) :
    2 ^ (l.fractionBits + (f.exponent - 1)) ≤ f.units := by
  rw [units, if_neg normal, Nat.pow_add]
  exact Nat.mul_le_mul_right _ (Nat.le_add_right _ _)

theorem units_lt_units (less : f.exponent < g.exponent) : f.units < g.units := by
  have normal : g.exponent ≠ 0 := Nat.ne_zero_of_lt less
  calc f.units < 2 ^ (l.fractionBits + f.exponent) := f.units_lt
    _ ≤ 2 ^ (l.fractionBits + (g.exponent - 1)) := Nat.pow_le_pow_right (by decide) (by omega)
    _ ≤ g.units := le_units normal

theorem units_injective (same : f.units = g.units) :
    f.exponent = g.exponent ∧ f.fraction = g.fraction := by
  -- The units fall apart into ranges, one for each exponent.
  have exponent : f.exponent = g.exponent := by
    rcases Nat.lt_trichotomy f.exponent g.exponent with less | equal | greater
    · exact absurd same (units_lt_units less).ne
    · exact equal
    · exact absurd same (units_lt_units greater).ne'
  refine ⟨exponent, ?_⟩
  rw [units, units, exponent] at same
  split_ifs at same with subnormal
  · exact same
  · exact Nat.add_left_cancel (Nat.eq_of_mul_eq_mul_right (Nat.two_pow_pos _) same)

end Fields

/-! ## What a pattern denotes -/

/-- The sign and the magnitude of a number or of an infinity. Both zeros have a sign. -/
def Datum.denoted? : Datum → Option (Bool × WithTop ℚ)
  | nan _ _ => none
  | infinite negative => some (negative, ⊤)
  | finite negative significand exponent =>
    some (negative, ((significand * 2 ^ exponent : ℚ) : WithTop ℚ))

/-- The fields of a pattern that denotes an infinity, or what is not a number. -/
def Fields.IsTop (f : Fields l) : Prop :=
  f.exponent = l.topField

instance (f : Fields l) : Decidable f.IsTop :=
  inferInstanceAs (Decidable (f.exponent = l.topField))

/-- What fields denote. -/
def Fields.denoted? (f : Fields l) : Option (Bool × WithTop ℚ) :=
  if f.IsTop then if f.fraction = 0 then some (f.negative, ⊤) else none
  else some (f.negative, ((f.units * 2 ^ l.leastExponent : ℚ) : WithTop ℚ))

theorem Fields.denoted?_of_top {f : Fields l} (top : f.IsTop) :
    f.denoted? = if f.fraction = 0 then some (f.negative, ⊤) else none :=
  if_pos top

theorem Fields.denoted?_of_finite {f : Fields l} (finite : ¬f.IsTop) :
    f.denoted? = some (f.negative, ((f.units * 2 ^ l.leastExponent : ℚ) : WithTop ℚ)) :=
  if_neg finite

theorem Fields.eq_of_denoted?_eq {f g : Fields l} (number : f.denoted? ≠ none)
    (same : f.denoted? = g.denoted?) : f = g := by
  have unit : (2 : ℚ) ^ l.leastExponent ≠ 0 := zpow_ne_zero _ two_ne_zero
  by_cases top_f : f.IsTop
  · by_cases top_g : g.IsTop
    · rw [denoted?_of_top top_f] at number same
      rw [denoted?_of_top top_g] at same
      have zero_f : f.fraction = 0 := by simpa using number
      rw [if_pos zero_f] at same
      have zero_g : g.fraction = 0 := by
        by_contra nan
        rw [if_neg nan] at same
        cases same
      rw [if_pos zero_g, Option.some.injEq, Prod.mk.injEq] at same
      exact Fields.ext same.1 (top_f.trans top_g.symm) (zero_f.trans zero_g.symm)
    · -- An infinity is none of the finite numbers.
      rw [denoted?_of_top top_f, denoted?_of_finite top_g] at same
      split_ifs at same
      rw [Option.some.injEq, Prod.mk.injEq] at same
      exact absurd same.2 WithTop.top_ne_coe
  · by_cases top_g : g.IsTop
    · rw [denoted?_of_finite top_f, denoted?_of_top top_g] at same
      split_ifs at same
      rw [Option.some.injEq, Prod.mk.injEq] at same
      exact absurd same.2 WithTop.coe_ne_top
    · rw [denoted?_of_finite top_f, denoted?_of_finite top_g, Option.some.injEq, Prod.mk.injEq,
        WithTop.coe_inj, mul_left_inj' unit, Nat.cast_inj] at same
      obtain ⟨exponent, fraction⟩ := units_injective same.2
      exact Fields.ext same.1 exponent fraction

/-- A normal number is one unit times a power of two, put in front of the exponent of the unit. -/
theorem zpow_normal {least : Int} {exponent : Nat} (normal : exponent ≠ 0) :
    (2 : ℚ) ^ (least + (exponent : Int) - 1) = 2 ^ (exponent - 1) * 2 ^ least := by
  rw [← zpow_natCast, ← zpow_add₀ two_ne_zero]
  congr 1
  omega

theorem denoted?_datum (bits : Nat) : (l.datum bits).denoted? = (l.fields bits).denoted? := by
  -- The datum is read off the same three fields, only not by their names.
  have shown : l.datum bits =
      let f := l.fields bits
      if f.IsTop then if f.fraction = 0 then .infinite f.negative else .nan f.negative f.fraction
      else if f.exponent = 0 then .finite f.negative f.fraction l.leastExponent
      else .finite f.negative (2 ^ l.fractionBits + f.fraction)
        (l.leastExponent + (f.exponent : Int) - 1) := rfl
  rw [shown, Fields.denoted?, Fields.units]
  simp only []
  split_ifs with top infinite subnormal
  · rfl
  · rfl
  · rfl
  · rw [Datum.denoted?, zpow_normal subnormal]
    push_cast
    rw [mul_assoc]

theorem denoted?_eq_none_iff {bits : Nat} :
    (l.datum bits).denoted? = none ↔ l.isNan bits = true := by
  have nan : l.isNan bits = true ↔ (l.fields bits).IsTop ∧ (l.fields bits).fraction ≠ 0 := by
    simp [Layout.isNan, Layout.fields, Fields.IsTop]
  rw [denoted?_datum, nan]
  by_cases top : (l.fields bits).IsTop
  · simp [Fields.denoted?_of_top top, top]
  · simp [Fields.denoted?_of_finite top, top]

theorem exists_denoted {bits : Nat} (number : l.isNan bits = false) :
    ∃ amount, (l.datum bits).denoted? = some amount := by
  apply Option.ne_none_iff_exists'.1
  rw [ne_eq, denoted?_eq_none_iff, number]
  exact Bool.false_ne_true

/-- Patterns of the width of a layout that denote the same number or infinity are the same. -/
theorem eq_of_denoted?_eq {a b : Nat} {amount : Bool × WithTop ℚ} (fits_a : a < 2 * l.signBit)
    (fits_b : b < 2 * l.signBit) (denotes_a : (l.datum a).denoted? = some amount)
    (denotes_b : (l.datum b).denoted? = some amount) : a = b := by
  have same : (l.fields a).denoted? = (l.fields b).denoted? := by
    rw [← denoted?_datum, ← denoted?_datum, denotes_a, denotes_b]
  have number : (l.fields a).denoted? ≠ none := by
    rw [← denoted?_datum, denotes_a]
    exact Option.some_ne_none amount
  rw [← Layout.pattern_fields fits_a, ← Layout.pattern_fields fits_b]
  exact congrArg Fields.pattern (Fields.eq_of_denoted?_eq number same)

end FormatConformance.Ieee
