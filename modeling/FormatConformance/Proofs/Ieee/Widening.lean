import FormatConformance.Proofs.Ieee.Fields

/-!
# Singles widened

A single is sent as the double that denotes the same. What is small in single precision is normal in
double precision, so the fraction of a subnormal is shifted until its first bit falls away, and the
exponent is the place of that bit (`exists_widened_subnormal`). Of any other number the exponent
moves by the difference of the biases and the fraction by the difference of the widths. In either
case the double has `2 ^ unitShift` times as many units as the single (`Widens`), which is how much
smaller they are, and so the two denote the same (`Widens.denoted?_eq`). Since a pattern is told by
what it denotes, no two numbers are sent as one (`eq_of_widen_eq`). What is not a number keeps its
sign and its fraction, less the mark of a signal (`widen_of_isNan`).
-/

namespace FormatConformance.Ieee

/-! ## Fields of a widened single -/

/-- The unit of a single is that of a double doubled so many times. -/
def unitShift : Nat := 925

/-- The fields of a double and those of a single that denote the same. -/
structure Widens (f : Fields single) (g : Fields double) : Prop where
  negative : g.negative = f.negative
  top_iff : g.IsTop ↔ f.IsTop
  zero_iff : f.IsTop → (g.fraction = 0 ↔ f.fraction = 0)
  units : ¬f.IsTop → g.units = f.units * 2 ^ unitShift

theorem unit_eq : (2 : ℚ) ^ unitShift * 2 ^ double.leastExponent = 2 ^ single.leastExponent := by
  have exponents : (unitShift : Int) + double.leastExponent = single.leastExponent := by decide
  rw [← zpow_natCast, ← zpow_add₀ two_ne_zero, exponents]

theorem Widens.denoted?_eq {f : Fields single} {g : Fields double} (widens : Widens f g) :
    g.denoted? = f.denoted? := by
  by_cases top : f.IsTop
  · rw [Fields.denoted?_of_top top, Fields.denoted?_of_top (widens.top_iff.2 top), widens.negative]
    simp only [widens.zero_iff top]
  · have finite : ¬g.IsTop := fun other => top (widens.top_iff.1 other)
    rw [Fields.denoted?_of_finite top, Fields.denoted?_of_finite finite, widens.negative,
      widens.units top, Nat.cast_mul, Nat.cast_pow, Nat.cast_ofNat, mul_assoc, unit_eq]

/-- The magnitude of a widened single, by its exponent and its fraction. -/
def widenedMagnitude (exponent fraction : Nat) : Nat :=
  if exponent = 255 then
    if fraction = 0 then 2047 * 2 ^ 52
    else 2047 * 2 ^ 52 + fraction * 2 ^ 29 + if fraction < 2 ^ 22 then 2 ^ 51 else 0
  else if exponent = 0 then
    if fraction = 0 then 0
    else (fraction.log2 + 874) * 2 ^ 52 +
      (fraction - 2 ^ fraction.log2) * 2 ^ (52 - fraction.log2)
  else (exponent + 896) * 2 ^ 52 + fraction * 2 ^ 29

theorem widen_eq (bits : Nat) :
    widen bits = double.withSign (single.fields bits).negative
      (widenedMagnitude (single.fields bits).exponent (single.fields bits).fraction) :=
  rfl

/-- A double with the pattern that a single is widened to, denoting the same. -/
def IsWidened (f : Fields single) (g : Fields double) : Prop :=
  Widens f g ∧ g.pattern = double.withSign f.negative (widenedMagnitude f.exponent f.fraction)

theorem exists_widened_of_top {f : Fields single} {fraction : Nat} (top : f.IsTop)
    (fits : fraction < 2 ^ 52) (zero_iff : fraction = 0 ↔ f.fraction = 0)
    (magnitude : widenedMagnitude f.exponent f.fraction = 2047 * 2 ^ 52 + fraction) :
    ∃ g, IsWidened f g := by
  refine ⟨⟨f.negative, 2047, fraction, by decide, fits⟩, ⟨rfl, ?_, ?_, ?_⟩, ?_⟩
  · exact iff_of_true rfl top
  · exact fun _ => zero_iff
  · exact fun finite => absurd top finite
  · rw [magnitude]
    rfl

theorem exists_widened_of_finite {f : Fields single} (exponent fraction : Nat) (finite : ¬f.IsTop)
    (exponent_lt : exponent < 2047) (fits : fraction < 2 ^ 52)
    (units : (if exponent = 0 then fraction else (2 ^ 52 + fraction) * 2 ^ (exponent - 1)) =
      f.units * 2 ^ unitShift)
    (magnitude : widenedMagnitude f.exponent f.fraction = exponent * 2 ^ 52 + fraction) :
    ∃ g, IsWidened f g := by
  have within : exponent < 2 ^ 11 := exponent_lt.trans (by decide)
  refine ⟨⟨f.negative, exponent, fraction, within, fits⟩, ⟨rfl, ?_, ?_, ?_⟩, ?_⟩
  · exact iff_of_false exponent_lt.ne finite
  · exact fun top => absurd top finite
  · exact fun _ => units
  · rw [magnitude]
    rfl

/-! ### Infinity and what is not a number -/

theorem exists_widened_infinity {f : Fields single} (top : f.IsTop) (zero : f.fraction = 0) :
    ∃ g, IsWidened f g := by
  have exponent : f.exponent = 255 := top
  apply exists_widened_of_top top (Nat.two_pow_pos 52) (iff_of_true rfl zero)
  rw [widenedMagnitude, if_pos exponent, if_pos zero, Nat.add_zero]

/-- What is not a number becomes quiet: its first bit is set, if it is not. -/
theorem exists_widened_nan {f : Fields single} (top : f.IsTop) (nonzero : f.fraction ≠ 0) :
    ∃ g, IsWidened f g := by
  have exponent : f.exponent = 255 := top
  have small : f.fraction < 2 ^ 23 := f.fraction_lt
  have fits : f.fraction * 2 ^ 29 + (if f.fraction < 2 ^ 22 then 2 ^ 51 else 0) < 2 ^ 52 := by
    split_ifs <;> omega
  -- The bits that there were stay, so this is no infinity.
  have some_bit : f.fraction * 2 ^ 29 + (if f.fraction < 2 ^ 22 then 2 ^ 51 else 0) ≠ 0 := by
    omega
  apply exists_widened_of_top top fits (iff_of_false some_bit nonzero)
  rw [widenedMagnitude, if_pos exponent, if_neg nonzero, Nat.add_assoc]

/-! ### Numbers -/

theorem units_of_subnormal {f : Fields single} (least : f.exponent = 0) : f.units = f.fraction :=
  if_pos least

theorem exists_widened_zero {f : Fields single} (finite : ¬f.IsTop) (least : f.exponent = 0)
    (zero : f.fraction = 0) : ∃ g, IsWidened f g := by
  refine exists_widened_of_finite 0 0 finite (by decide) (by decide) ?_ ?_
  · rw [if_pos rfl, units_of_subnormal least, zero, Nat.zero_mul]
  · rw [widenedMagnitude, least, if_neg (by decide), if_pos rfl, if_pos zero, Nat.zero_mul]

/-- A subnormal single is a normal double: the fraction is shifted until its first bit stands in
front of the fraction of the double, where it is not written. -/
theorem exists_widened_subnormal {f : Fields single} (finite : ¬f.IsTop) (least : f.exponent = 0)
    (nonzero : f.fraction ≠ 0) : ∃ g, IsWidened f g := by
  -- `top` is the place of the first bit, and what stands behind it is below `2 ^ top`.
  obtain ⟨top, log⟩ : ∃ top, f.fraction.log2 = top := ⟨_, rfl⟩
  have small : f.fraction < 2 ^ 23 := f.fraction_lt
  have place : top < 23 := log ▸ (Nat.log2_lt nonzero).2 small
  have first : 2 ^ top ≤ f.fraction := log ▸ Nat.log2_self_le nonzero
  have rest : f.fraction - 2 ^ top < 2 ^ top := by
    have next : f.fraction < 2 ^ (top + 1) := log ▸ Nat.lt_log2_self
    omega
  have whole : 2 ^ top * 2 ^ (52 - top) = 2 ^ 52 := by
    rw [← Nat.pow_add, Nat.add_sub_cancel' (by omega)]
  have fits : (f.fraction - 2 ^ top) * 2 ^ (52 - top) < 2 ^ 52 := by
    rw [← whole]
    exact Nat.mul_lt_mul_of_pos_right rest (Nat.two_pow_pos _)
  have shifted :
      2 ^ 52 + (f.fraction - 2 ^ top) * 2 ^ (52 - top) = f.fraction * 2 ^ (52 - top) := by
    rw [← whole, ← Nat.add_mul, Nat.add_sub_cancel' first]
  have exponents : 52 - top + (top + 874 - 1) = unitShift := by
    unfold unitShift
    omega
  refine exists_widened_of_finite (top + 874) _ finite (by omega) fits ?_ ?_
  · rw [if_neg (Nat.succ_ne_zero _), units_of_subnormal least, shifted, Nat.mul_assoc,
      ← Nat.pow_add, exponents]
  · rw [widenedMagnitude, least, if_neg (by decide), if_pos rfl, if_neg nonzero, log]

theorem exists_widened_normal {f : Fields single} (finite : ¬f.IsTop) (normal : f.exponent ≠ 0) :
    ∃ g, IsWidened f g := by
  have below : f.exponent < 255 := by
    have most : f.exponent < 2 ^ 8 := f.exponent_lt
    have other : f.exponent ≠ 255 := finite
    omega
  have small : f.fraction < 2 ^ 23 := f.fraction_lt
  have shifted : 2 ^ 52 + f.fraction * 2 ^ 29 = (2 ^ 23 + f.fraction) * 2 ^ 29 := by omega
  have exponents : 29 + (f.exponent + 896 - 1) = f.exponent - 1 + unitShift := by
    unfold unitShift
    omega
  have units : f.units = (2 ^ 23 + f.fraction) * 2 ^ (f.exponent - 1) := if_neg normal
  refine exists_widened_of_finite (f.exponent + 896) (f.fraction * 2 ^ 29) finite (by omega)
    (by omega) ?_ ?_
  · rw [if_neg (Nat.succ_ne_zero _), units, shifted, Nat.mul_assoc, ← Nat.pow_add, exponents,
      Nat.pow_add, Nat.mul_assoc]
  · rw [widenedMagnitude, if_neg below.ne, if_neg normal]

theorem exists_widened (f : Fields single) : ∃ g, IsWidened f g := by
  -- The cases are those that the program tells apart, one lemma for each.
  by_cases top : f.IsTop
  · by_cases zero : f.fraction = 0
    · exact exists_widened_infinity top zero
    · exact exists_widened_nan top zero
  · by_cases least : f.exponent = 0
    · by_cases zero : f.fraction = 0
      · exact exists_widened_zero top least zero
      · exact exists_widened_subnormal top least zero
    · exact exists_widened_normal top least

/-! ## Widened patterns -/

theorem widens_fields (bits : Nat) :
    Widens (single.fields bits) (double.fields (widen bits)) ∧
      widen bits < 2 * double.signBit := by
  obtain ⟨g, widens, pattern⟩ := exists_widened (single.fields bits)
  rw [widen_eq, ← pattern, Fields.fields_pattern]
  exact ⟨widens, g.pattern_lt⟩

/-- A widened single denotes what the single denotes. -/
theorem denoted?_widen (bits : Nat) :
    (double.datum (widen bits)).denoted? = (single.datum bits).denoted? := by
  rw [denoted?_datum, denoted?_datum, (widens_fields bits).1.denoted?_eq]

theorem isNan_widen (bits : Nat) : double.isNan (widen bits) = single.isNan bits := by
  rw [Bool.eq_iff_iff, ← denoted?_eq_none_iff, ← denoted?_eq_none_iff, denoted?_widen]

theorem isNegative_widen (bits : Nat) :
    double.isNegative (widen bits) = single.isNegative bits :=
  (widens_fields bits).1.negative

theorem widen_lt (bits : Nat) : widen bits < 2 ^ 64 :=
  (widens_fields bits).2

/-- Singles that are numbers or infinities are the same when they are widened to the same. -/
theorem eq_of_widen_eq {a b : Nat} (fits_a : a < 2 ^ 32) (fits_b : b < 2 ^ 32)
    (number : single.isNan a = false) (same : widen a = widen b) : a = b := by
  obtain ⟨amount, denoted⟩ := exists_denoted number
  apply eq_of_denoted?_eq fits_a fits_b denoted
  rw [← denoted?_widen, ← same, denoted?_widen, denoted]

/-- What is not a number becomes quiet and keeps its sign and the rest of its fraction. -/
theorem widen_of_isNan {bits : Nat} (fits : bits < 2 ^ 32) (nan : single.isNan bits = true) :
    widen bits = bits / 2 ^ 31 * 2 ^ 63 + 0x7ff8000000000000 + bits % 2 ^ 22 * 2 ^ 29 := by
  have fields : single.exponentField bits = single.topField ∧ single.fractionField bits ≠ 0 := by
    simpa [Layout.isNan] using nan
  have top : (single.fields bits).exponent = 255 := fields.1
  have fraction : (single.fields bits).fraction = bits % 2 ^ 23 := rfl
  have nonzero : bits % 2 ^ 23 ≠ 0 := fields.2
  have sign : (single.fields bits).negative = decide (2 ^ 31 ≤ bits) := rfl
  rw [widen_eq, widenedMagnitude, if_pos top, fraction, if_neg nonzero, sign]
  -- The sign bit of the double lies above everything that is added to it.
  have signed (magnitude : Nat) : double.withSign (decide (2 ^ 31 ≤ bits)) magnitude =
      if 2 ^ 31 ≤ bits then 2 ^ 63 + magnitude else magnitude := by
    simp only [Layout.withSign, decide_eq_true_eq]
    rfl
  rw [signed]
  split_ifs <;> omega

end FormatConformance.Ieee
