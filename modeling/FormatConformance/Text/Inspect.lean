import FormatConformance.Text.Quoted

/-!
# Values on one line

The texts in which a failing command shows a value: a constructor with its arguments in
parentheses, a record with its fields in braces, a list in brackets, and strings in quotes.
-/

namespace FormatConformance.Text.Inspect

/-- Texts with a comma and a space between them. -/
def commaSeparated (texts : List String) : String :=
  String.intercalate ", " texts

/-- A constructor with one argument. -/
def applied (constructor argument : String) : String :=
  constructor ++ "(" ++ argument ++ ")"

/-- A constructor with named fields. -/
def record (constructor : String) (fields : List (String × String)) : String :=
  constructor ++ " \x7b " ++ commaSeparated (fields.map fun f => f.1 ++ ": " ++ f.2) ++ " \x7d"

/-- A list. -/
def list (items : List String) : String :=
  "[" ++ commaSeparated items ++ "]"

/-- A string in quotes. -/
def string (text : String) : String :=
  Quoted.quoteString text

end FormatConformance.Text.Inspect
