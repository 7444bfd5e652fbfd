import FormatConformance.Instant
import FormatConformance.Sha256
import FormatConformance.Text.Blank

/-!
# Seeds

A seed is a word of 64 bits. It is written in hexadecimal behind `0x` with all sixteen digits, and
read in decimal or hexadecimal, underscores and white space around it not counting.
-/

namespace FormatConformance

/-- A seed. -/
abbrev Seed := UInt64

namespace Seed

/-- The text that is read: without white space at the ends and without underscores. -/
def cleaned (text : List Char) : List Char :=
  (Text.trim text).filter (· ≠ '_')

/-- Reads a seed. -/
def read? (text : String) : Option Seed :=
  let body := cleaned text.toList
  let value := match Numeral.hexBody? body with
    | some digits => Numeral.readUnsigned 16 Numeral.maxWord64 digits
    | none => Numeral.readUnsigned 10 Numeral.maxWord64 body
  value.toOption.map UInt64.ofNat

/-- The text of a seed. -/
def text (seed : Seed) : String :=
  String.ofList (Numeral.hexPattern 16 seed.toNat)

/-- A seed from the time and the number of the process. -/
def fresh (now : Instant) (process : Nat) : Seed :=
  UInt64.ofNat now.nanosSinceEpoch ^^^ UInt64.ofNat (process * 0x100000000)

/-- The eight bytes of a seed, the least significant first. -/
def littleEndian (seed : Seed) : Bytes :=
  [seed, seed >>> 8, seed >>> 16, seed >>> 24, seed >>> 32, seed >>> 40, seed >>> 48,
    seed >>> 56].map UInt64.toUInt8

/-- The 32 bytes that a seed is expanded to. -/
def expanded (seed : Seed) : Bytes :=
  Sha256.digest seed.littleEndian

end Seed

end FormatConformance
