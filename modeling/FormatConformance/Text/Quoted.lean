import FormatConformance.Numeral
import FormatConformance.Text.Printable

/-!
# Quoted text

A text between double quotes in which every character can be told apart: NUL, tab, line feed,
carriage return, quotes and the backslash have short escapes, and a character that leaves no mark
of its own is written by its code point in braces. A `Style` says which quotes are escaped and
where a character that extends the one before it is written by its code point.
-/

namespace FormatConformance.Text.Quoted

/-- The decisions of one manner of quoting. -/
structure Style where
  /-- The double quote is escaped. -/
  doubleQuote : Bool
  /-- The single quote is escaped. -/
  singleQuote : Bool
  /-- A character that extends the one before it is written by its code point. -/
  extending : Bool

/-- Text between double quotes: the single quote stands as it is. -/
def literal : Style := ⟨true, false, true⟩

/-- The first character of free-standing text: there is nothing it could extend. -/
def leading : Style := ⟨true, true, true⟩

/-- The later characters of free-standing text: they may extend what stands before them. -/
def trailing : Style := ⟨true, true, false⟩

/-- A character by its code point. -/
def codePoint (c : Char) : List Char :=
  '\\' :: 'u' :: '\x7b' :: (Numeral.digits 16 c.toNat ++ ['\x7d'])

/-- One character in a style. -/
def escapeChar (style : Style) (c : Char) : List Char :=
  if c = '\x00' then ['\\', '0']
  else if c = '\t' then ['\\', 't']
  else if c = '\n' then ['\\', 'n']
  else if c = '\r' then ['\\', 'r']
  else if c = '\\' then ['\\', '\\']
  else if c = '"' ∧ style.doubleQuote then ['\\', '"']
  else if c = '\'' ∧ style.singleQuote then ['\\', '\'']
  else if style.extending && isExtending c then codePoint c
  else if isPrintable c then [c]
  else codePoint c

/-- The inside of a quoted text. -/
def body (text : List Char) : List Char :=
  text.flatMap (escapeChar literal)

/-- A text between double quotes. -/
def quote (text : List Char) : List Char :=
  '"' :: (body text ++ ['"'])

/-- A text without quotes around it, both quotes inside escaped. -/
def escape : List Char → List Char
  | [] => []
  | c :: rest => escapeChar leading c ++ rest.flatMap (escapeChar trailing)

/-- A string between double quotes. -/
def quoteString (text : String) : String :=
  String.ofList (quote text.toList)

@[simp] theorem body_nil : body [] = [] := rfl

end FormatConformance.Text.Quoted
