import FormatConformance.EntryPoint
import FormatConformance.Ieee.Reading
import FormatConformance.Ieee.Shortest
import FormatConformance.Numeral
import FormatConformance.Text.Quoted
import FormatConformance.Text.Utf8

/-!
# Arguments

The value that a template is formatted with. Floating point values are bit patterns, so that every
kind of not-a-number and both zeros stay apart. An argument is shown so that it can be typed back:
a floating point value carries its pattern beside its shortest decimal.
-/

namespace FormatConformance

/-- The argument of one call. -/
inductive Argument
  | nothing
  | int (value : Int32)
  | single (bits : UInt32)
  | double (bits : UInt64)
  | text (value : String)
  deriving DecidableEq, Repr

namespace Argument

/-- The entry point that takes such an argument. -/
def entryPoint : Argument → EntryPoint
  | nothing => .nothing
  | int _ => .int
  | single _ => .single
  | double _ => .double
  | text _ => .text

/-- What kind of value it is, in the words of a calling convention. -/
def kindName : Argument → String
  | nothing => "unit"
  | int _ => "int"
  | single _ => "float"
  | double _ => "double"
  | text _ => "string"

/-- Whether the value is a floating point pattern for what is not a number. -/
def isNan : Argument → Bool
  | single bits => Ieee.single.isNan bits.toNat
  | double bits => Ieee.double.isNan bits.toNat
  | _ => false

/-- Floating point values are shown positionally from `10⁻⁴` up to below `10¹⁶`, else with an
exponent, which has no plus sign. -/
def floatStyle : Ieee.Style where
  leastPlace := -3
  greatestPlace := 16
  plusSign := false
  tie := .upper
  nan := "NaN"
  infinity := "inf"

/-- A bit pattern as a comment behind the value that it denotes. -/
def patternComment (width bits : Nat) : List Char :=
  " /* ".toList ++ Numeral.hexPattern width bits ++ " */".toList

/-- The value as it can be typed back. -/
def literal : Argument → List Char
  | nothing => []
  | int value => Numeral.signedDecimal value.toInt
  | single bits =>
    floatStyle.text Ieee.single bits.toNat ++ "f32".toList ++ patternComment 8 bits.toNat
  | double bits => floatStyle.text Ieee.double bits.toNat ++ patternComment 16 bits.toNat
  | text value => Text.Quoted.quote value.toList

/-- Why a text is no argument of an entry point. -/
inductive Fault
  /-- Something stands where no argument is taken. -/
  | unexpected
  | numeral (cause : Numeral.Fault)
  | float (cause : Ieee.Reading.Fault)
  deriving DecidableEq, Repr

/-- The wording of a fault in reading a trimmed text for an entry point. -/
def Fault.message (entry : EntryPoint) (text : List Char) : Fault → String
  | .unexpected => "no_args takes no value, got " ++ String.ofList (Text.Quoted.quote text)
  | .numeral cause => invalid cause.message
  | .float cause => invalid cause.message
where
  invalid (cause : String) : String :=
    "invalid " ++ entry.name ++ " value " ++ String.ofList (Text.Quoted.quote text) ++ ": " ++ cause

/-- The bit pattern written in hexadecimal behind `0x`, when it fits into 64 bits. -/
def hexBits? (text : List Char) : Option Nat := do
  let digits ← Numeral.hexBody? text
  (Numeral.readUnsigned 16 Numeral.maxWord64 digits).toOption

/-- Reads a trimmed text as an argument of an entry point. -/
def readTrimmed (entry : EntryPoint) (text : List Char) : Except Fault Argument :=
  match entry with
  | .nothing => if text.isEmpty then .ok .nothing else .error .unexpected
  | .int =>
    match Numeral.readSigned 0x80000000 0x7fffffff text with
    | .ok value => .ok (.int (Int32.ofInt value))
    | .error cause => .error (.numeral cause)
  | .single =>
    match hexBits? text with
    | some bits =>
      if bits ≤ Numeral.maxWord32 then .ok (.single (UInt32.ofNat bits))
      else .error (.numeral .tooLarge)
    | none =>
      match Ieee.Reading.read Ieee.single text with
      | .ok bits => .ok (.single (UInt32.ofNat bits))
      | .error cause => .error (.float cause)
  | .double =>
    match hexBits? text with
    | some bits => .ok (.double (UInt64.ofNat bits))
    | none =>
      match Ieee.Reading.read Ieee.double text with
      | .ok bits => .ok (.double (UInt64.ofNat bits))
      | .error cause => .error (.float cause)
  | .text => .ok (.text (String.ofList text))

/-- Reads a text as an argument of an entry point; white space at either end does not count. -/
def read (entry : EntryPoint) (text : String) : Except String Argument :=
  let trimmed := Text.trim text.toList
  match readTrimmed entry trimmed with
  | .ok argument => .ok argument
  | .error fault => .error (fault.message entry trimmed)

end Argument

end FormatConformance
