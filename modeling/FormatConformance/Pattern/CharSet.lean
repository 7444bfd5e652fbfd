/-!
# Sets of characters

A set is a list of ranges of code points in ascending order with gaps between them, so that equal
sets have equal lists. Surrogates are no characters and belong to no set.
-/

namespace FormatConformance

/-- A set of characters by its ranges, both ends of a range being members. -/
structure CharSet where
  ranges : List (Nat × Nat)
  deriving DecidableEq, Repr

namespace CharSet

/-- The greatest code point. -/
def top : Nat :=
  0x10ffff

/-- The first surrogate. -/
def surrogateStart : Nat :=
  0xd800

/-- The last surrogate. -/
def surrogateEnd : Nat :=
  0xdfff

/-- The set without members. -/
def empty : CharSet :=
  ⟨[]⟩

/-- Puts a range into ranges in ascending order, joining those that it touches. -/
def insertRange (low high : Nat) : List (Nat × Nat) → List (Nat × Nat)
  | [] => [(low, high)]
  | (a, b) :: rest =>
    if high + 1 < a then (low, high) :: (a, b) :: rest
    else if b + 1 < low then (a, b) :: insertRange low high rest
    else insertRange (min low a) (max high b) rest

/-- The set of some ranges of characters. -/
def ofRanges (ranges : List (Char × Char)) : CharSet :=
  ⟨ranges.foldl (fun set range => insertRange range.1.toNat range.2.toNat set) []⟩

/-- The characters from one to another. -/
def range (low high : Char) : CharSet :=
  ofRanges [(low, high)]

/-- A set with one member. -/
def singleton (c : Char) : CharSet :=
  range c c

/-- The members of a list. -/
def ofList (chars : List Char) : CharSet :=
  ofRanges (chars.map fun c => (c, c))

/-- The members of either set. -/
def union (a b : CharSet) : CharSet :=
  ⟨b.ranges.foldl (fun set range => insertRange range.1 range.2 set) a.ranges⟩

/-- The code points of a range that are characters. -/
def withoutSurrogates (low high : Nat) : List (Nat × Nat) :=
  [(low, min high (surrogateStart - 1)), (max low (surrogateEnd + 1), high)].filter fun range =>
    range.1 ≤ range.2

/-- The code points from a start on that lie outside ranges in ascending order. -/
def gaps (start : Nat) : List (Nat × Nat) → List (Nat × Nat)
  | [] => if start ≤ top then withoutSurrogates start top else []
  | (a, b) :: rest =>
    (if start < a then withoutSurrogates start (a - 1) else []) ++ gaps (b + 1) rest

/-- All characters outside a set. -/
def complement (s : CharSet) : CharSet :=
  ⟨gaps 0 s.ranges⟩

/-- The members of both sets. -/
def inter (a b : CharSet) : CharSet :=
  (a.complement.union b.complement).complement

/-- The members of the first set that are not in the second. -/
def diff (a b : CharSet) : CharSet :=
  a.inter b.complement

/-- The members of one set that are not in the other. -/
def symmDiff (a b : CharSet) : CharSet :=
  (a.diff b).union (b.diff a)

/-- Whether a character is a member. -/
def contains (s : CharSet) (c : Char) : Bool :=
  s.ranges.any fun range => range.1 ≤ c.toNat && c.toNat ≤ range.2

/-- Whether all members are ASCII. -/
def isAscii (s : CharSet) : Bool :=
  s.ranges.all fun range => range.2 < 0x80

/-- How many members there are. -/
def size (s : CharSet) : Nat :=
  s.ranges.foldr (fun range size => range.2 + 1 - range.1 + size) 0

/-- The member at a position in ascending order of some ranges. -/
def memberAt? : List (Nat × Nat) → Nat → Option Char
  | [], _ => none
  | (a, b) :: rest, index =>
    if a + index ≤ b then some (Char.ofNat (a + index)) else memberAt? rest (index - (b + 1 - a))

/-- The ASCII letters. -/
def letters : List Char :=
  "ABCDEFGHIJKLMNOPQRSTUVWXYZabcdefghijklmnopqrstuvwxyz".toList

/-- The ASCII letter in the other case. -/
def otherCase (c : Char) : Char :=
  if c.isLower then c.toUpper else c.toLower

/-- The set with every ASCII letter in both cases. -/
def ignoringCase (s : CharSet) : CharSet :=
  s.union (ofList ((letters.filter s.contains).map otherCase))

end CharSet

end FormatConformance
