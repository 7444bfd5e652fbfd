import FormatConformance.Pattern.CharSet

/-!
# Named sets of characters

The sets that a pattern can name by a letter behind a backslash, and the ASCII classes, which it can
name in brackets. A set is taken by its ASCII members, since templates are made of printable ASCII.
-/

namespace FormatConformance.CharSet

/-- The decimal digits. -/
def digits : CharSet :=
  range '0' '9'

/-- The capital letters. -/
def capitals : CharSet :=
  range 'A' 'Z'

/-- The small letters. -/
def smallLetters : CharSet :=
  range 'a' 'z'

/-- All letters. -/
def allLetters : CharSet :=
  capitals.union smallLetters

/-- White space. -/
def spaces : CharSet :=
  ofRanges [('\t', '\r'), (' ', ' ')]

/-- Letters, digits and the underscore. -/
def wordChars : CharSet :=
  (allLetters.union digits).union (singleton '_')

/-- What is neither a letter, a digit, a space nor a control character. -/
def signs : CharSet :=
  ofRanges [('!', '/'), (':', '@'), ('[', '\x60'), ('\x7b', '~')]

/-- The control characters. -/
def controls : CharSet :=
  ofRanges [('\x00', '\x1f'), ('\x7f', '\x7f')]

/-- Every ASCII character. -/
def ascii : CharSet :=
  range '\x00' '\x7f'

/-- The digits of hexadecimal numbers. -/
def hexDigits : CharSet :=
  ofRanges [('0', '9'), ('A', 'F'), ('a', 'f')]

/-- The ASCII classes that can be named in brackets. -/
def asciiClasses : List (String × CharSet) :=
  [("alnum", allLetters.union digits), ("alpha", allLetters), ("ascii", ascii),
    ("blank", ofList ['\t', ' ']), ("cntrl", controls), ("digit", digits),
    ("graph", range '!' '~'), ("lower", smallLetters), ("print", range ' ' '~'),
    ("punct", signs), ("space", spaces), ("upper", capitals), ("word", wordChars),
    ("xdigit", hexDigits)]

end FormatConformance.CharSet
