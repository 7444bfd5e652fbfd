/-!
# Binary floating point

The IEEE 754 interchange formats as bit patterns. A pattern denotes a datum: not a number, an
infinity, or `± m · 2 ^ e` with a natural number `m`. Rounding takes a quotient of natural numbers
to the pattern of the nearest datum, ties to the even pattern.
-/

namespace FormatConformance.Ieee

/-- The widths of the fields of a format. -/
structure Layout where
  fractionBits : Nat
  exponentBits : Nat
  deriving DecidableEq

/-- Single precision, 32 bits. -/
def single : Layout := ⟨23, 8⟩

/-- Double precision, 64 bits. -/
def double : Layout := ⟨52, 11⟩

/-- What a bit pattern denotes. -/
inductive Datum
  | nan (negative : Bool) (payload : Nat)
  | infinite (negative : Bool)
  /-- The number `± significand · 2 ^ exponent`. -/
  | finite (negative : Bool) (significand : Nat) (exponent : Int)
  deriving DecidableEq

namespace Layout

/-- The exponent field of infinities and of what is not a number. -/
def topField (l : Layout) : Nat :=
  Nat.pow 2 l.exponentBits - 1

/-- The offset between an exponent field and the exponent it stands for. -/
def bias (l : Layout) : Nat :=
  Nat.pow 2 (l.exponentBits - 1) - 1

/-- The exponent of the unit in the last place of the smallest numbers. -/
def leastExponent (l : Layout) : Int :=
  1 - (l.bias : Int) - (l.fractionBits : Int)

/-- The bit that holds the sign. -/
def signBit (l : Layout) : Nat :=
  Nat.pow 2 (l.fractionBits + l.exponentBits)

/-- The pattern of positive infinity. -/
def infinity (l : Layout) : Nat :=
  l.topField * Nat.pow 2 l.fractionBits

/-- The pattern of the quiet datum that is not a number and carries nothing else. -/
def quietNan (l : Layout) : Nat :=
  l.infinity + Nat.pow 2 (l.fractionBits - 1)

/-- The pattern with the sign bit added when the number is negative. -/
def withSign (l : Layout) (negative : Bool) (magnitude : Nat) : Nat :=
  if negative then l.signBit + magnitude else magnitude

/-- Whether the sign bit of a pattern is set. -/
def isNegative (l : Layout) (bits : Nat) : Bool :=
  l.signBit ≤ bits

/-- The exponent field of a pattern. -/
def exponentField (l : Layout) (bits : Nat) : Nat :=
  bits / Nat.pow 2 l.fractionBits % Nat.pow 2 l.exponentBits

/-- The fraction field of a pattern. -/
def fractionField (l : Layout) (bits : Nat) : Nat :=
  bits % Nat.pow 2 l.fractionBits

/-- What a pattern denotes. -/
def datum (l : Layout) (bits : Nat) : Datum :=
  let negative := l.isNegative bits
  let field := l.exponentField bits
  let fraction := l.fractionField bits
  if field = l.topField then
    if fraction = 0 then .infinite negative else .nan negative fraction
  else if field = 0 then .finite negative fraction l.leastExponent
  else .finite negative (Nat.pow 2 l.fractionBits + fraction) (l.leastExponent + (field : Int) - 1)

/-- Whether a pattern denotes what is not a number. -/
def isNan (l : Layout) (bits : Nat) : Bool :=
  l.exponentField bits = l.topField && l.fractionField bits ≠ 0

/-- The nearest natural number to a quotient, a tie going to the even neighbour. -/
def roundHalfEven (num den : Nat) : Nat :=
  let floor := num / den
  let rest := 2 * (num % den)
  if den < rest ∨ (rest = den ∧ floor % 2 = 1) then floor + 1 else floor

/-- The quotient `num / den` scaled by `2 ^ -exponent`, as a quotient. -/
def scaled (num den : Nat) (exponent : Int) : Nat × Nat :=
  (num * Nat.pow 2 (-exponent).toNat, den * Nat.pow 2 exponent.toNat)

/-- The greatest exponent `e` with `Nat.pow 2 e ≤ num / den`, for a positive quotient. -/
def floorLog2 (num den : Nat) : Int :=
  let guess : Int := (num.log2 : Int) - (den.log2 : Int)
  let (n, d) := scaled num den guess
  if d ≤ n then guess else guess - 1

/-- The pattern without sign of the datum nearest to `num / den`; beyond the greatest number it is
infinity. -/
def magnitudeOfQuotient (l : Layout) (num den : Nat) : Nat :=
  if num = 0 then 0
  else
    let exponent := max l.leastExponent (floorLog2 num den - (l.fractionBits : Int))
    let (n, d) := scaled num den exponent
    let pattern := (exponent - l.leastExponent).toNat * Nat.pow 2 l.fractionBits + roundHalfEven n d
    min pattern l.infinity

end Layout

/-- A single taken to the double that denotes the same datum. What is not a number becomes quiet
and keeps its sign and the rest of its fraction. -/
def widen (bits : Nat) : Nat :=
  let negative := single.isNegative bits
  let field := single.exponentField bits
  let fraction := single.fractionField bits
  let gap := double.fractionBits - single.fractionBits
  double.withSign negative <|
    if field = single.topField then
      if fraction = 0 then double.infinity
      else double.infinity + fraction * Nat.pow 2 gap
        + (if fraction < 0x400000 then Nat.pow 2 (double.fractionBits - 1) else 0)
    else if field = 0 then
      if fraction = 0 then 0
      else
        let top := fraction.log2
        (top + 874) * Nat.pow 2 double.fractionBits
          + (fraction - Nat.pow 2 top) * Nat.pow 2 (double.fractionBits - top)
    else
      (field + (double.bias - single.bias)) * Nat.pow 2 double.fractionBits
        + fraction * Nat.pow 2 gap

end FormatConformance.Ieee
