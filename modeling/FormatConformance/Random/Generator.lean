import FormatConformance.Pattern.Basic
import FormatConformance.Random.Source

/-!
# Generators

A generator makes a value from the words of a tape, starting at a position, and says at which
position it stopped. Every choice is the remainder of one word, so that a choice from a list always
is a member of it.
-/

namespace FormatConformance.Random

/-- A generator of values. -/
abbrev Generator (α : Type) := ReaderT Tape (StateM Nat) α

namespace Generator

variable {α : Type}

/-- The value that a generator makes from the start of a tape. -/
def value (g : Generator α) (tape : Tape) : α :=
  (g tape 0).1

/-- The next word. -/
def word : Generator UInt64 :=
  fun tape position => (tape position, position + 1)

/-- A number up to a bound. -/
def upTo (bound : Nat) : Generator (Fin (bound + 1)) := do
  let w ← word
  return Fin.ofNat (bound + 1) w.toNat

/-- A member of a list. -/
def member (values : List α) (nonempty : 0 < values.length) : Generator α := do
  let index ← upTo (values.length - 1)
  return values.get ⟨index, by omega⟩

/-- The generator in whose share of the weights a number falls. -/
def inShare (first : Generator α) : List (Nat × Generator α) → Nat → Generator α
  | [], _ => first
  | (weight, g) :: rest, number =>
    if number < weight then g else inShare first rest (number - weight)

/-- One of some generators, each as often as its weight says. -/
def weighted (weight : Nat) (first : Generator α) (others : List (Nat × Generator α)) :
    Generator α := do
  let total := weight + others.foldr (fun other sum => other.1 + sum) 0
  let number ← upTo (total - 1)
  inShare first ((weight, first) :: others) number

/-- A number of values from one generator. -/
def copies (g : Generator α) : Nat → Generator (List α)
  | 0 => return []
  | n + 1 => do
    let a ← g
    let rest ← copies g n
    return a :: rest

/-- Up to a number of values from one generator. -/
def listUpTo (bound : Nat) (g : Generator α) : Generator (List α) := do
  let length ← upTo bound
  copies g length

/-- How often more than needed a match is repeated that may be repeated without bound. -/
def moreRepetitions : Nat :=
  32

/-- A text that matches a pattern. -/
def matching : Pattern → Generator (List Char)
  | .empty => return []
  | .oneOf set => do
    let index ← upTo (set.size - 1)
    return (CharSet.memberAt? set.ranges index).toList
  | .seq p q => do
    let x ← matching p
    let y ← matching q
    return x ++ y
  | .either p q => weighted 1 (matching p) [(1, matching q)]
  | .times least most p => do
    let more ← upTo (most.getD (least + moreRepetitions) - least)
    let parts ← copies (matching p) (least + more)
    return parts.flatten

end Generator

end FormatConformance.Random
