import FormatConformance.Ieee.Layout
import FormatConformance.Ieee.Shortest

/-!
# Numbers in JSON

A number without fraction and exponent is an integer as far as 64 bits reach, and every other number
is a double. The double of a numeral is computed from a significand of at most 64 bits, the digits
beyond them counting only for the size, by one product or quotient with a power of ten; it is
therefore close to the value of the numeral but not always nearest to it.
-/

namespace FormatConformance.Json

/-- A number: an integer of 64 bits, with or without sign, or the pattern of a finite double. -/
inductive Number
  | int (value : Int)
  | double (bits : UInt64)
  deriving DecidableEq, Repr

/-- A numeral in its parts, all of them digits. -/
structure Numeral where
  negative : Bool
  whole : List Char
  fraction : Option (List Char)
  /-- The exponent: whether it is negative, and its digits. -/
  exponent : Option (Bool × List Char)
  deriving DecidableEq, Repr

namespace Numeral

/-- The greatest significand. -/
def bound : Nat := 0xffffffffffffffff

/-- The greatest exponent that is computed with. -/
def exponentBound : Nat := 0x7fffffff

/-- The number of a decimal digit. -/
def digitValue (c : Char) : Nat :=
  c.toNat - 48

/-- Appends digits to a number as long as it stays within a limit; the digits left over come
back. -/
def gather (limit sofar : Nat) : List Char → Nat × List Char
  | [] => (sofar, [])
  | c :: rest =>
    if sofar * 10 + digitValue c ≤ limit then gather limit (sofar * 10 + digitValue c) rest
    else (sofar, c :: rest)

/-- A number of double precision as a quotient. -/
def quotientOf (bits : Nat) : Nat × Nat :=
  match Ieee.double.datum bits with
  | .finite _ significand exponent =>
    (significand * Nat.pow 2 exponent.toNat, Nat.pow 2 (-exponent).toNat)
  | _ => (0, 1)

/-- The double nearest to a power of ten. -/
def powerOfTen (exponent : Nat) : Nat :=
  Ieee.double.magnitudeOfQuotient (Nat.pow 10 exponent) 1

/-- The double nearest to a product. -/
def product (a b : Nat) : Nat :=
  let (an, ad) := quotientOf a
  let (bn, bd) := quotientOf b
  Ieee.double.magnitudeOfQuotient (an * bn) (ad * bd)

/-- The double nearest to a quotient. -/
def quotient (a b : Nat) : Nat :=
  let (an, ad) := quotientOf a
  let (bn, bd) := quotientOf b
  Ieee.double.magnitudeOfQuotient (an * bd) (ad * bn)

/-- The greatest exponent of ten that a double reaches. -/
def greatestPower : Nat := 308

/-- A double scaled by a power of ten; none when it leaves the range. -/
def scale (bits : Nat) (exponent : Int) : Option Nat :=
  if exponent.natAbs ≤ greatestPower then
    if 0 ≤ exponent then
      let scaled := product bits (powerOfTen exponent.natAbs)
      if scaled = Ieee.double.infinity then none else some scaled
    else some (quotient bits (powerOfTen exponent.natAbs))
  else if bits = 0 then some 0
  else if 0 ≤ exponent then none
  else scale (quotient bits (powerOfTen greatestPower)) (exponent + greatestPower)
termination_by (-exponent).toNat
decreasing_by simp only [greatestPower] at *; omega

/-- The pattern of a significand times a power of ten, with a sign. -/
def doubleOf (negative : Bool) (significand : Nat) (exponent : Int) : Option Number :=
  (scale (Ieee.double.magnitudeOfQuotient significand 1) exponent).map fun magnitude =>
    .double (UInt64.ofNat (Ieee.double.withSign negative magnitude))

/-- The double of a numeral. -/
def double? (n : Numeral) : Option Number :=
  let (significand, dropped) := gather bound 0 n.whole
  let fraction := n.fraction.getD []
  let (significand, unread) := gather bound significand fraction
  let shift : Int := (dropped.length : Int) - ((fraction.length - unread.length : Nat) : Int)
  match n.exponent with
  | none => doubleOf n.negative significand shift
  | some (negative, digits) =>
    let (exponent, rest) := gather exponentBound 0 digits
    if rest.isEmpty then
      doubleOf n.negative significand
        (if negative then max (shift - exponent) (-0x80000000)
          else min (shift + exponent) exponentBound)
    else if significand ≠ 0 ∧ negative = false then none
    else doubleOf n.negative 0 0

/-- The number that a numeral stands for; none when it is too large for a double. -/
def number? (n : Numeral) : Option Number :=
  if n.fraction.isSome || n.exponent.isSome then n.double?
  else
    match gather bound 0 n.whole with
    | (magnitude, []) =>
      if n.negative then
        if 1 ≤ magnitude ∧ magnitude ≤ 0x8000000000000000 then some (.int (-magnitude))
        else doubleOf true magnitude 0
      else some (.int magnitude)
    | _ => n.double?

end Numeral

/-- Doubles are written positionally from `10⁻⁵` up to below `10¹⁶`, else with an exponent whose
sign is always written. -/
def doubleStyle : Ieee.Style where
  leastPlace := -4
  greatestPlace := 16
  plusSign := true
  tie := .even
  nan := "null"
  infinity := "null"

/-- The text of a number. -/
def Number.text : Number → List Char
  | .int value => FormatConformance.Numeral.signedDecimal value
  | .double bits => doubleStyle.text Ieee.double bits.toNat

end FormatConformance.Json
