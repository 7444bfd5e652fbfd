import FormatConformance.Json.Value

/-!
# Writing JSON

The compact form on one line, and the form with one item on a line and two spaces of indentation
per level. Inside strings the quote, the backslash and the control characters are escaped and
nothing else, so the compact form never holds a line break.
-/

namespace FormatConformance.Json

/-- One character inside a string. -/
def escapeChar (c : Char) : List Char :=
  if c = '"' then ['\\', '"']
  else if c = '\\' then ['\\', '\\']
  else if c = '\x08' then ['\\', 'b']
  else if c = '\x0c' then ['\\', 'f']
  else if c = '\n' then ['\\', 'n']
  else if c = '\r' then ['\\', 'r']
  else if c = '\t' then ['\\', 't']
  else if c.toNat < 0x20 then '\\' :: 'u' :: FormatConformance.Numeral.paddedHex 4 c.toNat
  else [c]

/-- A string with its quotes. -/
def quote (text : List Char) : List Char :=
  '"' :: (text.flatMap escapeChar ++ ['"'])

/-- The text of a truth value. -/
def boolText (value : Bool) : List Char :=
  if value then ['t', 'r', 'u', 'e'] else ['f', 'a', 'l', 's', 'e']

mutual

/-- The compact form of a value. -/
def compact : Json → List Char
  | null => ['n', 'u', 'l', 'l']
  | bool value => boolText value
  | number value => value.text
  | string value => quote value.toList
  | array [] => ['[', ']']
  | array (item :: items) => '[' :: (compact item ++ compactItems items ++ [']'])
  | object [] => ['\x7b', '\x7d']
  | object (field :: fields) =>
    '\x7b' :: (compactField field ++ compactFields fields ++ ['\x7d'])

/-- The later items of an array, each behind a comma. -/
def compactItems : List Json → List Char
  | [] => []
  | item :: items => ',' :: (compact item ++ compactItems items)

/-- A field of an object. -/
def compactField : String × Json → List Char
  | (key, value) => quote key.toList ++ ':' :: compact value

/-- The later fields of an object, each behind a comma. -/
def compactFields : List (String × Json) → List Char
  | [] => []
  | field :: fields => ',' :: (compactField field ++ compactFields fields)

end

/-- A line break and the indentation of a level. -/
def newline (level : Nat) : List Char :=
  '\n' :: List.replicate (2 * level) ' '

mutual

/-- The indented form of a value that stands at a level. -/
def indented (level : Nat) : Json → List Char
  | null => ['n', 'u', 'l', 'l']
  | bool value => boolText value
  | number value => value.text
  | string value => quote value.toList
  | array [] => ['[', ']']
  | array (item :: items) =>
    '[' :: (newline (level + 1) ++ indented (level + 1) item
      ++ indentedItems (level + 1) items ++ newline level ++ [']'])
  | object [] => ['\x7b', '\x7d']
  | object (field :: fields) =>
    '\x7b' :: (newline (level + 1) ++ indentedField (level + 1) field
      ++ indentedFields (level + 1) fields ++ newline level ++ ['\x7d'])

/-- The later items of an array, each behind a comma on a line of its own. -/
def indentedItems (level : Nat) : List Json → List Char
  | [] => []
  | item :: items => ',' :: (newline level ++ indented level item ++ indentedItems level items)

/-- A field of an object. -/
def indentedField (level : Nat) : String × Json → List Char
  | (key, value) => quote key.toList ++ ':' :: ' ' :: indented level value

/-- The later fields of an object, each behind a comma on a line of its own. -/
def indentedFields (level : Nat) : List (String × Json) → List Char
  | [] => []
  | field :: fields =>
    ',' :: (newline level ++ indentedField level field ++ indentedFields level fields)

end

/-- The value on one line. -/
def line (value : Json) : String :=
  String.ofList value.compact

/-- The value with one item on a line. -/
def page (value : Json) : String :=
  String.ofList (value.indented 0)

end FormatConformance.Json
