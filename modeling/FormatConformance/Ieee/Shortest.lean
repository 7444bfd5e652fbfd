import FormatConformance.Ieee.Layout
import FormatConformance.Numeral

/-!
# The shortest decimal of a floating point number

Of the decimals that read back as a given number, one has the fewest digits and lies nearest to the
number. The reals that round to `m · 2 ^ q` form an interval; on each decimal grid, coarsest first,
only the two neighbours of the number can be the nearest point of the grid inside it.

A `Style` then lays the digits out: with a point among the zeros, or with an exponent.
-/

namespace FormatConformance.Ieee

/-- The number `digits · 10 ^ exponent`. -/
structure Decimal where
  digits : Nat
  exponent : Int
  deriving DecidableEq, Repr

namespace Shortest

/-- The number of decimal digits of a natural number, zero having none. -/
def digitCount (n : Nat) : Nat :=
  if n = 0 then 0 else (Numeral.decimal n).length

/-- The place of the decimal point: the least `k` with `num / den < 10 ^ k`, for a positive
quotient. -/
def pointPlace (num den : Nat) : Int :=
  if den ≤ num then digitCount (num / den)
  else 1 - (digitCount ((den - 1) / num) : Int)

/-- A positive number with the ends of the interval that rounds to it, as numerators over one
denominator. -/
structure Span where
  low : Nat
  value : Nat
  high : Nat
  den : Nat
  closed : Bool

/-- The span of `significand · 2 ^ exponent` in a layout. Below a power of two the spacing is half
of what it is above. -/
def Span.of (l : Layout) (significand : Nat) (exponent : Int) : Span :=
  let up := Nat.pow 2 exponent.toNat
  let narrow := significand = Nat.pow 2 l.fractionBits ∧ l.leastExponent < exponent
  { low := (4 * significand - (if narrow then 1 else 2)) * up
    value := 4 * significand * up
    high := (4 * significand + 2) * up
    den := 4 * Nat.pow 2 (-exponent).toNat
    closed := significand % 2 = 0 }

/-- Whether `point · unitNum / unitDen` reads back as the number. -/
def Span.holds (s : Span) (point unitNum unitDen : Nat) : Bool :=
  let left := s.low * unitDen
  let here := point * unitNum * s.den
  let right := s.high * unitDen
  if s.closed then left ≤ here && here ≤ right else left < here && here < right

/-- Which of two points equally near to a number is taken. -/
inductive Tie
  | upper
  /-- The one with an even last digit. -/
  | even
  deriving DecidableEq, Repr

/-- Whether the upper of two points is taken, given the lower one. -/
def Tie.takesUpper (tie : Tie) (below : Nat) : Bool :=
  match tie with
  | upper => true
  | even => below % 2 = 1

/-- The grid point nearest to the number that reads back as it, on the grid of `10 ^ place`. -/
def Span.nearest? (s : Span) (tie : Tie) (place : Int) : Option Nat :=
  let unitNum := Nat.pow 10 place.toNat
  let unitDen := Nat.pow 10 (-place).toNat
  let num := s.value * unitDen
  let den := s.den * unitNum
  let below := num / den
  let above := below + 1
  let belowHolds := s.holds below unitNum unitDen
  let aboveHolds := s.holds above unitNum unitDen
  let twice := 2 * (num % den)
  let upper := if twice = den then tie.takesUpper below else den < twice
  if belowHolds && aboveHolds then some (if upper then above else below)
  else if belowHolds then some below
  else if aboveHolds then some above
  else none

/-- The first hit on the grids with one digit more each time. -/
def Span.search (s : Span) (tie : Tie) (point : Int) : Nat → Nat → Option Decimal
  | 0, _ => none
  | fuel + 1, count =>
    let place := point - (count : Int)
    match s.nearest? tie place with
    | some digits => some ⟨digits, place⟩
    | none => s.search tie point fuel (count + 1)

/-- The number of digits that tell all numbers of a layout apart. -/
def enoughDigits (l : Layout) : Nat :=
  (l.fractionBits + 1) * 302 / 1000 + 2

/-- A decimal without trailing zeros among its digits. -/
def stripZeros (d : Decimal) : Decimal :=
  if h : d.digits ≠ 0 ∧ d.digits % 10 = 0 then stripZeros ⟨d.digits / 10, d.exponent + 1⟩ else d
termination_by d.digits
decreasing_by exact Nat.div_lt_self (Nat.pos_of_ne_zero h.1) (by decide)

/-- The shortest decimal that reads back as `significand · 2 ^ exponent`. -/
def ofFinite (tie : Tie) (l : Layout) (significand : Nat) (exponent : Int) : Decimal :=
  if significand = 0 then ⟨0, 0⟩
  else
    let span := Span.of l significand exponent
    let point := pointPlace span.value span.den
    let found := (span.search tie point (enoughDigits l) 1).getD ⟨significand, 0⟩
    stripZeros found

end Shortest

/-- How the digits of a decimal are laid out. -/
structure Style where
  /-- The least place of the decimal point that is written with leading zeros. -/
  leastPlace : Int
  /-- The greatest place of the decimal point that is written with trailing zeros. -/
  greatestPlace : Int
  /-- A positive exponent has a plus sign. -/
  plusSign : Bool
  tie : Shortest.Tie
  /-- The texts of what is no finite number. -/
  nan : String
  infinity : String

namespace Style

/-- A decimal with the point among its digits and zeros, one digit at least on either side. -/
def positional (digits : List Char) (place : Int) : List Char :=
  if place ≤ 0 then '0' :: '.' :: (List.replicate (-place).toNat '0' ++ digits)
  else
    let whole := digits.take place.toNat
    let fraction := digits.drop place.toNat
    whole ++ List.replicate (place.toNat - whole.length) '0' ++ '.' ::
      (if fraction.isEmpty then ['0'] else fraction)

/-- A decimal with one digit before the point and an exponent. -/
def scientific (plusSign : Bool) (digits : List Char) (place : Int) : List Char :=
  let mantissa := match digits with
    | [] => []
    | [d] => [d]
    | d :: rest => d :: '.' :: rest
  let exponent := place - 1
  mantissa ++ 'e' ::
    ((if plusSign && 0 ≤ exponent then ['+'] else []) ++ Numeral.signedDecimal exponent)

/-- The text of a decimal without sign. -/
def decimalText (s : Style) (d : Decimal) : List Char :=
  if d.digits = 0 then ['0', '.', '0']
  else
    let digits := Numeral.decimal d.digits
    let place := d.exponent + (digits.length : Int)
    if s.leastPlace ≤ place ∧ place ≤ s.greatestPlace then positional digits place
    else scientific s.plusSign digits place

/-- The text of what a bit pattern denotes; what is not a number has no sign. -/
def text (s : Style) (l : Layout) (bits : Nat) : List Char :=
  let signed (negative : Bool) (text : List Char) := if negative then '-' :: text else text
  match l.datum bits with
  | .nan _ _ => s.nan.toList
  | .infinite negative => signed negative s.infinity.toList
  | .finite negative significand exponent =>
    signed negative (s.decimalText (Shortest.ofFinite s.tie l significand exponent))

end Style

end FormatConformance.Ieee
