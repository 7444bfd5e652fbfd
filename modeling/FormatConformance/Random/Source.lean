import FormatConformance.Seed

/-!
# Sources of randomness

A tape has a word of 64 bits at every position, and a source has a tape for every case. Both are
functions, so that whatever is drawn from them can be drawn again. A seed gives a source whose words
are mixed from a key and the two positions.
-/

namespace FormatConformance.Random

/-- A word for every position. -/
abbrev Tape := Nat → UInt64

/-- A tape for every number of a case. -/
structure Source where
  tape : Nat → Tape

/-- The distance between the inputs of neighbouring words. -/
def stride : UInt64 :=
  0x9e3779b97f4a7c15

/-- Spreads every bit of a word over all bits; no two words become equal. -/
def mix (word : UInt64) : UInt64 :=
  let a := (word ^^^ (word >>> 30)) * 0xbf58476d1ce4e5b9
  let b := (a ^^^ (a >>> 27)) * 0x94d049bb133111eb
  b ^^^ (b >>> 31)

/-- The word with a number behind a key. -/
def word (key : UInt64) (number : Nat) : UInt64 :=
  mix (key + stride * UInt64.ofNat (number + 1))

/-- The word of a key at two positions. -/
def wordAt (key : UInt64) (number position : Nat) : UInt64 :=
  word (word key number) position

/-- A word from its bytes, the least significant first. -/
def wordOfBytes : Bytes → UInt64
  | [] => 0
  | b :: rest => b.toUInt64 + 256 * wordOfBytes rest

/-- The key of a seed. -/
def key (seed : Seed) : UInt64 :=
  wordOfBytes (seed.expanded.take 8)

/-- The source of a seed. -/
def Source.ofSeed (seed : Seed) : Source :=
  ⟨wordAt (key seed)⟩

end FormatConformance.Random
