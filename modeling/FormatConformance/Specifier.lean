import FormatConformance.EntryPoint
import FormatConformance.Pattern.Reader

/-!
# Specifiers

The grammars of the specifiers that cases are made with, one for each kind of argument. A fill
character is never a brace, so that a specifier always fits into one placeholder.

- integers: `[[fill]align][sign][#][0][width]type`
- floating point: `[[fill]align][sign][#][0]width.precision type`
- texts: `[[fill]align[width]]`, the alignment being explicit
-/

namespace FormatConformance.Specifier

open Pattern

/-- The fill characters: printable ASCII without braces. -/
def fill : Pattern :=
  oneOf (.ofRanges [(' ', 'z'), ('|', '|'), ('~', '~')])

/-- The alignments of numbers. -/
def numberAlignment : Pattern :=
  oneOf (.ofList ['<', '>', '=', '^'])

/-- The alignments of texts. -/
def textAlignment : Pattern :=
  oneOf (.ofList ['<', '>', '^'])

/-- The signs. -/
def sign : Pattern :=
  oneOf (.ofList ['+', '-', ' '])

/-- One character. -/
def char (c : Char) : Pattern :=
  oneOf (.singleton c)

/-- A decimal digit. -/
def digit : Pattern :=
  oneOf (.range '0' '9')

/-- A decimal digit other than zero. -/
def leadingDigit : Pattern :=
  oneOf (.range '1' '9')

/-- The parts in front of the width of a number. -/
def numberFlags : List Pattern :=
  [either (seq fill numberAlignment) (opt numberAlignment), opt sign, opt (char '#'),
    opt (char '0')]

/-- The specifiers of integers. -/
def int : Pattern :=
  sequence (numberFlags ++ [times 0 (some 4) digit, oneOf (.ofList ['b', 'd', 'o', 'x', 'X'])])

/-- The specifiers of floating point values. -/
def float : Pattern :=
  sequence (numberFlags ++ [leadingDigit, times 0 (some 3) digit, char '.', leadingDigit,
    times 0 (some 2) digit, oneOf (.ofList ['e', 'E', 'f', 'F', 'g', 'G'])])

/-- The specifiers of texts. -/
def text : Pattern :=
  opt (sequence [opt fill, textAlignment, times 0 (some 4) digit])

/-- The specifiers that go with an entry point. -/
def grammar : EntryPoint → Pattern
  | .nothing => .empty
  | .int => int
  | .single => float
  | .double => float
  | .text => text

/-! ## Notation -/

/-- The grammar of integers as it is written. -/
def intNotation : String :=
  "([ -z|~][<>=^]|[<>=^]?)[+\\- ]?#?0?[0-9]\x7b0,4\x7d[bdoxX]"

/-- The grammar of floating point values as it is written. -/
def floatNotation : String :=
  "([ -z|~][<>=^]|[<>=^]?)[+\\- ]?#?0?[1-9][0-9]\x7b0,3\x7d\\.[1-9][0-9]\x7b0,2\x7d[eEfFgG]"

/-- The grammar of texts as it is written. -/
def textNotation : String :=
  "([ -z|~]?[<>^][0-9]\x7b0,4\x7d)?"

theorem read?_intNotation : Pattern.read? intNotation = some int := by
  decide +kernel

theorem read?_floatNotation : Pattern.read? floatNotation = some float := by
  decide +kernel

theorem read?_textNotation : Pattern.read? textNotation = some text := by
  decide +kernel

end FormatConformance.Specifier
