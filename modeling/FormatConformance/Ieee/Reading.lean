import FormatConformance.Ieee.Layout
import FormatConformance.Numeral
import FormatConformance.Text.Blank

/-!
# Reading floating point numbers

A decimal text is an optional sign, digits with at most one point among them, and an optional
exponent; the words for infinity and for what is not a number count in either case. The number is
the datum nearest to the value of the text.
-/

namespace FormatConformance.Ieee.Reading

/-- Why a text is no floating point number. -/
inductive Fault
  | empty
  | invalid
  deriving DecidableEq, Repr

/-- The wording of a fault. -/
def Fault.message : Fault → String
  | .empty => "cannot parse float from empty string"
  | .invalid => "invalid float literal"

/-- The number `digits · 10 ^ exponent`, together with how many digits it was written with. -/
structure Scientific where
  digits : Nat
  exponent : Int

/-- The value of a run of decimal digits. -/
def digitsValue (digits : List Char) : Nat :=
  digits.foldl (fun sofar c => sofar * 10 + (c.toNat - 48)) 0

/-- The exponent of a text that starts behind the letter: a sign and at least one digit, to the
end of the text. -/
def exponent? (text : List Char) : Option Int :=
  let (negative, text) := match text with
    | '-' :: rest => (true, rest)
    | '+' :: rest => (false, rest)
    | _ => (false, text)
  let (run, rest) := Numeral.digitRun text
  if run.isEmpty || !rest.isEmpty then none
  else some (if negative then -(digitsValue run : Int) else digitsValue run)

/-- An unsigned decimal. -/
def scientific? (text : List Char) : Option Scientific :=
  let (whole, rest) := Numeral.digitRun text
  let (fraction, rest) := match rest with
    | '.' :: rest => Numeral.digitRun rest
    | _ => ([], rest)
  if whole.isEmpty && fraction.isEmpty then none
  else
    let digits := digitsValue (whole ++ fraction)
    let shift : Int := -(fraction.length : Int)
    match rest with
    | [] => some ⟨digits, shift⟩
    | c :: rest =>
      if c = 'e' ∨ c = 'E' then (exponent? rest).map fun e => ⟨digits, shift + e⟩ else none

/-- The pattern without sign nearest to `digits · 10 ^ exponent`. A number whose leading digit is
far outside the range of the layout is not computed. -/
def nearest (l : Layout) (s : Scientific) : Nat :=
  let size : Int := (Numeral.decimal s.digits).length + s.exponent
  let reach : Int := Nat.pow 2 l.exponentBits
  if s.digits = 0 then 0
  else if reach < size then l.infinity
  else if size < -reach then 0
  else
    l.magnitudeOfQuotient (s.digits * Nat.pow 10 s.exponent.toNat)
      (Nat.pow 10 (-s.exponent).toNat)

/-- The words that are read besides decimals. -/
def word? (l : Layout) (text : List Char) : Option Nat :=
  let word := String.ofList (Text.lowerAscii text)
  if word = "nan" then some l.quietNan
  else if word = "inf" ∨ word = "infinity" then some l.infinity
  else none

/-- The pattern of an unsigned text. -/
def magnitude? (l : Layout) (text : List Char) : Option Nat :=
  match scientific? text with
  | some s => some (nearest l s)
  | none => word? l text

/-- Reads a decimal text into a bit pattern. -/
def read (l : Layout) (text : List Char) : Except Fault Nat :=
  let signed (negative : Bool) (text : List Char) : Except Fault Nat :=
    match magnitude? l text with
    | some magnitude => .ok (l.withSign negative magnitude)
    | none => .error .invalid
  match text with
  | [] => .error .empty
  | '-' :: rest => signed true rest
  | '+' :: rest => signed false rest
  | _ => signed false text

end FormatConformance.Ieee.Reading
