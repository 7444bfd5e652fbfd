/-!
# Numerals

Whole numbers as text in a base up to sixteen: the digits of a number, padding to a fixed width,
and the reading of a signed numeral into a range. Reading goes from left to right and stops at the
first digit that does not belong or that leaves the range, whichever comes first.
-/

namespace FormatConformance.Numeral

/-- The digit that stands for a number below sixteen, in lower case. -/
def digitChar (n : Nat) : Char :=
  if n < 10 then Char.ofNat (48 + n) else Char.ofNat (87 + n)

/-- The number that a digit stands for in a base, letters counting in either case. -/
def digitValue? (base : Nat) (c : Char) : Option Nat :=
  let value? :=
    if '0' ≤ c ∧ c ≤ '9' then some (c.toNat - 48)
    else if 'a' ≤ c ∧ c ≤ 'f' then some (c.toNat - 87)
    else if 'A' ≤ c ∧ c ≤ 'F' then some (c.toNat - 55)
    else none
  value?.filter (· < base)

/-- The digits of a number, most significant first; zero has one digit. -/
def digits (base n : Nat) : List Char :=
  if _h : 2 ≤ base ∧ base ≤ n then digits base (n / base) ++ [digitChar (n % base)]
  else [digitChar n]
termination_by n
decreasing_by exact Nat.div_lt_self (by omega) (by omega)

/-- A text filled up on the left to a width. -/
def padLeft (width : Nat) (fill : Char) (text : List Char) : List Char :=
  List.replicate (width - text.length) fill ++ text

/-- The decimal digits of a number. -/
def decimal (n : Nat) : List Char :=
  digits 10 n

/-- The decimal digits of an integer, behind a minus sign when it is negative. -/
def signedDecimal : Int → List Char
  | .ofNat n => decimal n
  | .negSucc n => '-' :: decimal (n + 1)

/-- The decimal digits of a number, filled up with zeros to a width. -/
def paddedDecimal (width n : Nat) : List Char :=
  padLeft width '0' (decimal n)

/-- The hexadecimal digits of a number, filled up with zeros to a width. -/
def paddedHex (width n : Nat) : List Char :=
  padLeft width '0' (digits 16 n)

/-- A bit pattern behind `0x`, filled up with zeros to a width in digits. -/
def hexPattern (width n : Nat) : List Char :=
  '0' :: 'x' :: paddedHex width n

/-- Why a text is not a numeral of a range. -/
inductive Fault
  | empty
  | invalidDigit
  | tooLarge
  | tooSmall
  deriving DecidableEq, Repr

/-- The wording of a fault. -/
def Fault.message : Fault → String
  | .empty => "cannot parse integer from empty string"
  | .invalidDigit => "invalid digit found in string"
  | .tooLarge => "number too large to fit in target type"
  | .tooSmall => "number too small to fit in target type"

/-- Appends digits to a magnitude that must not pass a bound. -/
def readMagnitude (base bound : Nat) (beyond : Fault) (sofar : Nat) : List Char → Except Fault Nat
  | [] => .ok sofar
  | c :: rest =>
    match digitValue? base c with
    | none => .error .invalidDigit
    | some d =>
      if sofar * base + d ≤ bound then readMagnitude base bound beyond (sofar * base + d) rest
      else .error beyond

/-- Reads the digits of a numeral, of which there must be one at least. -/
def readDigits (base bound : Nat) (beyond : Fault) : List Char → Except Fault Nat
  | [] => .error .invalidDigit
  | c :: rest => readMagnitude base bound beyond 0 (c :: rest)

/-- Reads an unsigned numeral up to a bound; a plus sign may stand in front. -/
def readUnsigned (base bound : Nat) : List Char → Except Fault Nat
  | [] => .error .empty
  | '+' :: rest => readDigits base bound .tooLarge rest
  | c :: rest => readDigits base bound .tooLarge (c :: rest)

/-- Reads a signed decimal numeral from `-lower` to `upper`; a sign may stand in front. -/
def readSigned (lower upper : Nat) : List Char → Except Fault Int
  | [] => .error .empty
  | '+' :: rest => (readDigits 10 upper .tooLarge rest).map Int.ofNat
  | '-' :: rest => (readDigits 10 lower .tooSmall rest).map fun n => -(Int.ofNat n)
  | c :: rest => (readDigits 10 upper .tooLarge (c :: rest)).map Int.ofNat

/-- What stands behind `0x` or `0X`. -/
def hexBody? : List Char → Option (List Char)
  | '0' :: 'x' :: rest => some rest
  | '0' :: 'X' :: rest => some rest
  | _ => none

/-- The decimal digits at the start of a text and what stands behind them. -/
def digitRun (text : List Char) : List Char × List Char :=
  (text.takeWhile Char.isDigit, text.dropWhile Char.isDigit)

/-- The greatest number of 64 bits. -/
def maxWord64 : Nat := 0xffffffffffffffff

/-- The greatest number of 32 bits. -/
def maxWord32 : Nat := 0xffffffff

@[simp] theorem digitValue?_eq_none_of_base_zero (c : Char) : digitValue? 0 c = none := by
  simp [digitValue?]

theorem digits_ne_nil (base n : Nat) : digits base n ≠ [] := by
  unfold digits
  split <;> simp

end FormatConformance.Numeral
