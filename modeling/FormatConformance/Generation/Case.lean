import FormatConformance.Case
import FormatConformance.Generation.Alphabet
import FormatConformance.Random.Generator
import FormatConformance.Settings
import FormatConformance.Specifier

/-!
# Generated cases

A generator of cases for each entry point: texts over the alphabet within the bounds of the
settings, specifiers from the grammar of the entry point, and arguments among which extremes are
frequent. Floating point arguments are finite or not a number, and never infinite.
-/

namespace FormatConformance.Generation

open FormatConformance.Random FormatConformance.Random.Generator

/-- A character of the alphabet; edge characters have a fifth of the draws to themselves. -/
def character : Generator Char :=
  weighted 4 (member Alphabet.printable (by decide +kernel))
    [(1, member Alphabet.edge (by decide +kernel))]

/-- A text over the alphabet of at most some characters. -/
def text (bound : Nat) : Generator String := do
  let chars ← listUpTo bound character
  return String.ofList chars

/-- A specifier for an entry point. -/
def specifier (entry : EntryPoint) : Generator String := do
  let chars ← matching (Specifier.grammar entry)
  return String.ofList chars

/-! ## Arguments -/

/-- The least integer that is an argument. -/
def leastInt : Int32 :=
  -2147483648

/-- The greatest integer that is an argument. -/
def greatestInt : Int32 :=
  2147483647

/-- Any integer. -/
def anyInt : Generator Int32 := do
  let w ← word
  return w.toUInt32.toInt32

/-- An integer near zero. -/
def smallInt : Generator Int32 := do
  let number ← upTo 1999
  return Int32.ofNat number - 1000

/-- An integer, both extremes, zero and its neighbourhood being frequent. -/
def int : Generator Int32 :=
  weighted 6 anyInt
    [(2, smallInt), (1, pure leastInt), (1, pure greatestInt), (1, pure 0)]

/-- A bit pattern with an exponent field in a range. -/
def withExponent (l : Ieee.Layout) (least greatest : Nat) : Generator Nat := do
  let negative ← upTo 1
  let exponent ← upTo (greatest - least)
  let fraction ← upTo (Nat.pow 2 l.fractionBits - 1)
  return l.withSign (negative = 1) ((least + exponent) * Nat.pow 2 l.fractionBits + fraction)

/-- The bit pattern of a zero. -/
def zero (l : Ieee.Layout) : Generator Nat := do
  let negative ← upTo 1
  return l.withSign (negative = 1) 0

/-- The bit pattern of a finite number: normal, subnormal or zero. -/
def finite (l : Ieee.Layout) : Generator Nat :=
  weighted 20 (withExponent l 1 (l.topField - 1)) [(6, withExponent l 0 0), (4, zero l)]

/-- The bit pattern of what is not a number, of either sign. -/
def notANumber (l : Ieee.Layout) : Generator Nat :=
  member [l.quietNan, l.withSign true l.quietNan] (Nat.zero_lt_succ _)

/-- Singles at the edges of formats: both zeros, `0.5`, `9.5`, `1e-5`, `16777216`, the distance from
one to the next number, the least normal number, and the greatest and the least number. -/
def edgeSingles : List Nat :=
  [0, 0x80000000, 0x3f000000, 0x41180000, 0x3727c5ac, 0x4b800000, 0x34000000, 0x00800000,
    0x7f7fffff, 0xff7fffff]

/-- Doubles at the edges of formats: both zeros, `0.5`, `9.5`, `1e-5`, `1e16`, `1e22`, the distance
from one to the next number, the least normal number, and the greatest and the least number. -/
def edgeDoubles : List Nat :=
  [0, 0x8000000000000000, 0x3fe0000000000000, 0x4023000000000000, 0x3ee4f8b588e368f1,
    0x4341c37937e08000, 0x4480f0cf064dd592, 0x3cb0000000000000, 0x0010000000000000,
    0x7fefffffffffffff, 0xffefffffffffffff]

/-- A bit pattern of a format, some of them drawn more often. -/
def pattern (l : Ieee.Layout) (frequent : Generator Nat) : Generator Nat :=
  weighted 8 (finite l) [(1, notANumber l), (2, frequent)]

/-- An argument for an entry point. -/
def argument (settings : Settings) : EntryPoint → Generator Argument
  | .nothing => return .nothing
  | .int => do return .int (← int)
  | .single => do
    let bits ← pattern Ieee.single (member edgeSingles (by decide))
    return .single (UInt32.ofNat bits)
  | .double => do
    let bits ← pattern Ieee.double (member edgeDoubles (by decide))
    return .double (UInt64.ofNat bits)
  | .text => do return .text (← text settings.maxText)

/-! ## Cases -/

/-- A case for an entry point. Without argument the whole template is drawn at once. -/
def input (settings : Settings) (entry : EntryPoint) : Generator Case :=
  match entry with
  | .nothing => do return .ofTemplate (← text settings.maxTemplate)
  | entry => do
    let before ← text settings.maxAffix
    let specifier ← specifier entry
    let after ← text settings.maxAffix
    let argument ← argument settings entry
    return ⟨before, specifier, after, argument⟩

/-- The cases of a source for an entry point, by their numbers. -/
def stream (settings : Settings) (source : Source) (entry : EntryPoint) (number : Nat) :
    Case :=
  (input settings entry).value (source.tape number)

end FormatConformance.Generation
