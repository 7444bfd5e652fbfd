import FormatConformance.Numeral
import FormatConformance.Subject.Library
import FormatConformance.Text.Search

/-!
# The echo library

A library that formats nothing and gives back what it was given: the template, a bar and the
argument. An exclamation mark in the template makes every probe report an error, and `~null~` makes
every formatter return a null pointer.
-/

namespace FormatConformance.Subject.Echo

/-- The mark by which a template is rejected. -/
def rejectMark : Bytes :=
  Text.bytesOf "!"

/-- The mark by which nothing is returned. -/
def nullMark : Bytes :=
  Text.bytesOf "~null~"

/-- An argument as it is given back: integers in decimal, bit patterns in hexadecimal, texts as
they are. -/
def argumentBytes? : Native → Option Bytes
  | .nothing => none
  | .int value => some (Text.utf8 (Numeral.signedDecimal value.toInt))
  | .single bits => some (Text.utf8 (Numeral.hexPattern 8 bits.toNat))
  | .double bits => some (Text.utf8 (Numeral.hexPattern 16 bits.toNat))
  | .text bytes => some bytes

/-- The template and the argument with a bar between them, or the template alone. -/
def echo (template : Bytes) (native : Native) : Bytes :=
  match argumentBytes? native with
  | none => template
  | some bytes => template ++ 0x7c :: bytes

/-- The exports of the echo library. -/
def library : Library where
  probe _ template _ := Text.occursIn rejectMark template
  render _ template native :=
    if Text.occursIn nullMark template then none else some (echo template native)

/-- The symbols of the echo library. -/
def symbols : List String :=
  ["FormatNothing", "FormatNothingError", "FormatOneInt", "FormatOneIntError", "FormatOneFloat",
    "FormatOneFloatError", "FormatOneDouble", "FormatOneDoubleError", "FormatOneString",
    "FormatOneStringError"]

/-- The echo library as it is found at its path. -/
def image : Image where
  exports symbol := symbols.contains symbol
  library := library

end FormatConformance.Subject.Echo
