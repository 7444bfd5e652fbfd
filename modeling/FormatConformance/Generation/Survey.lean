import FormatConformance.Generation.Case

/-!
# Surveys of cases

What can be said of a number of cases without naming any of them: the lengths of their texts,
whether they keep to the grammar and the alphabet, and which notable values occur.
-/

namespace FormatConformance.Generation

/-- The least and the greatest of some numbers. -/
def extremes : List Nat → Option (Nat × Nat)
  | [] => none
  | n :: rest => some (rest.foldl min n, rest.foldl max n)

/-- Names in ascending order without repetition. -/
def sortedNames (names : List String) : List String :=
  names.eraseDups.mergeSort fun a b => decide (a ≤ b)

/-- A name, when something holds. -/
def named (name : String) (holds : Bool) : List String :=
  if holds then [name] else []

/-- What is notable in a bit pattern. -/
def notableBits (l : Ieee.Layout) (bits : Nat) : List String :=
  named "nan" (l.isNan bits && !l.isNegative bits)
    ++ named "-nan" (l.isNan bits && l.isNegative bits)
    ++ named "zero" (bits = 0) ++ named "-zero" (bits = l.signBit)
    ++ named "negative" (l.isNegative bits)
    ++ named "inf" (bits = l.infinity || bits = l.signBit + l.infinity)

/-- What is notable in an argument. -/
def notableArgument : Argument → List String
  | .nothing => []
  | .int value =>
    named "zero" (value = 0) ++ named "negative" (value < 0)
      ++ named "i32_min" (value = leastInt) ++ named "i32_max" (value = greatestInt)
  | .single bits =>
    notableBits Ieee.single bits.toNat ++ named "f32_max" (bits = 0x7f7fffff)
  | .double bits =>
    notableBits Ieee.double bits.toNat ++ named "f64_min" (bits = 0xffefffffffffffff)
  | .text value => named "empty_string" value.isEmpty

/-- What is notable in the specifier of a case. -/
def notableSpecifier (c : Case) : List String :=
  let has (char : Char) := c.specifier.toList.contains char
  let number := c.entryPoint ≠ .text
  named "empty_spec" c.specifier.isEmpty ++ named "brace_in_spec" (has '\x7b' || has '\x7d')
    ++ named "<" (has '<') ++ named "^" (has '^') ++ named "=" (number && has '=')
    ++ named "hash" (number && has '#')

/-- What is notable in some cases. -/
def notable (cases : List Case) : List String :=
  sortedNames (cases.flatMap fun c => notableArgument c.argument ++ notableSpecifier c)

/-- Whether every specifier is in the grammar of an entry point. -/
def inGrammar (entry : EntryPoint) (cases : List Case) : Bool :=
  cases.all fun c => (Specifier.grammar entry).accepts c.specifier.toList

/-- The characters around the placeholders. -/
def affixes (cases : List Case) : List Char :=
  cases.flatMap fun c => c.before.toList ++ c.after.toList

/-- Whether all characters around the placeholders are in the alphabet. -/
def isPrintable (cases : List Case) : Bool :=
  (affixes cases).all Alphabet.printable.contains

/-- Whether every character of the alphabet occurs around the placeholders. -/
def usesAlphabet (cases : List Case) : Bool :=
  Alphabet.printable.all (affixes cases).contains

/-- The types at the end of the specifiers of numbers. -/
def types (cases : List Case) : String :=
  let last (c : Case) : List String :=
    match c.argument with
    | .nothing => []
    | .text _ => []
    | _ => c.specifier.toList.getLast?.toList.map fun char => String.ofList [char]
  String.join (sortedNames (cases.flatMap last))

/-- The lengths of the texts that are arguments. -/
def textLengths (cases : List Case) : List Nat :=
  cases.filterMap fun c =>
    match c.argument with
    | .text value => some value.length
    | _ => none

end FormatConformance.Generation
