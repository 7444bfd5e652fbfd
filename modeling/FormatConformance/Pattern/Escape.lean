import FormatConformance.Numeral
import FormatConformance.Pattern.Flags
import FormatConformance.Pattern.Property

/-!
# Escapes in patterns

What stands behind a backslash: a character by its number or by a letter, a named set, a sign that
loses its meaning, or a place between characters. Where sets hold bytes, there are neither
properties nor numbers that are written as a byte outside ASCII.
-/

namespace FormatConformance.Pattern

/-- What an escape stands for. -/
inductive Escape
  | char (c : Char)
  | set (s : CharSet)
  /-- A place between characters. -/
  | place

namespace Escape

/-- Whether a character is a digit of hexadecimal numbers. -/
def isHexDigit (c : Char) : Bool :=
  (Numeral.digitValue? 16 c).isSome

/-- The character with a number in hexadecimal. -/
def hexChar? (digits : List Char) : Option Char := do
  let code ← (Numeral.readUnsigned 16 Numeral.maxWord32 digits).toOption
  if code.isValidChar then some (Char.ofNat code) else none

/-- A character by its number in braces. -/
def readBracedHex? (f : Flags) (text : List Char) : Option (Char × List Char) :=
  match f.span (· ≠ '\x7d') text with
  | (digits, '\x7d' :: rest) =>
    if digits.isEmpty || !digits.all isHexDigit then none
    else (hexChar? digits).map (·, f.skip rest)
  | _ => none

/-- A character by its number, in braces or with a fixed count of digits. -/
def readHex? (f : Flags) (count : Nat) (text : List Char) : Option (Char × List Char) := do
  match f.skip text with
  | '\x7b' :: rest => readBracedHex? f rest
  | text =>
    let (digits, rest) ← f.take? isHexDigit count text
    return (← hexChar? digits, rest)

/-- A character by its number where two digits are the number of a byte. -/
def readByte? (f : Flags) (text : List Char) : Option (Char × List Char) := do
  let (c, rest) ← readHex? f 2 text
  let braced := (f.skip text).head? = some '\x7b'
  if f.unicode || braced || c.toNat < 0x80 then return (c, rest) else none

/-- The text with a separator somewhere inside, as what stands before and behind it. -/
def splitAt? (separator : List Char) : List Char → Option (List Char × List Char)
  | [] => none
  | c :: rest =>
    if separator.isPrefixOf (c :: rest) then some ([], (c :: rest).drop separator.length)
    else (splitAt? separator rest).map fun parts => (c :: parts.1, parts.2)

/-- The set of a property with a key or without one. The key is denied by `!=`, or else ends with a
colon, or else with an equality sign. -/
def namedProperty? (text : List Char) : Option CharSet :=
  match splitAt? ['!', '='] text with
  | some (key, name) => (CharSet.property? (some key) name).map CharSet.complement
  | none =>
    match splitAt? [':'] text <|> splitAt? ['='] text with
    | some (key, name) => CharSet.property? (some key) name
    | none => CharSet.property? none text

/-- A property of characters behind its letter. -/
def readProperty? (f : Flags) (text : List Char) : Option (CharSet × List Char) :=
  if f.unicode then
    match f.skip text with
    | [] => none
    | '\\' :: _ => none
    | '\x7b' :: rest =>
      match f.span (· ≠ '\x7d') rest with
      | (name, '\x7d' :: rest) => (namedProperty? name).map (·, rest)
      | _ => none
    | c :: rest => (CharSet.property? none [c]).map (·, rest)
  else none

/-- Whether a character can stand in the name of a kind of word boundary. -/
def isBoundaryChar (c : Char) : Bool :=
  c.isAlpha || c = '-'

/-- The kinds of word boundary. -/
def boundaries : List String :=
  ["start", "end", "start-half", "end-half"]

/-- The text behind the kind of a word boundary in braces. What else stands in braces is no part of
the boundary. -/
def behindBoundary? (f : Flags) (text : List Char) : Option (List Char) :=
  match text with
  | '\x7b' :: behind =>
    match f.skip behind with
    | [] => none
    | c :: rest =>
      if isBoundaryChar c then
        match f.span isBoundaryChar (c :: rest) with
        | (name, '\x7d' :: rest) =>
          if boundaries.contains (String.ofList name) then some rest else none
        | _ => none
      else some text
  | _ => some text

/-- Whether a sign stands for itself behind a backslash. -/
def isPlainSign (c : Char) : Bool :=
  c.toNat < 0x80 && !c.isAlphanum && !(c = '<' || c = '>')

/-- What stands behind a backslash. -/
def read? (f : Flags) (text : List Char) : Option (Escape × List Char) :=
  match text with
  | [] => none
  | c :: rest =>
    match c with
    | 'x' => (readByte? f rest).map fun r => (.char r.1, r.2)
    | 'u' => (readHex? f 4 rest).map fun r => (.char r.1, r.2)
    | 'U' => (readHex? f 8 rest).map fun r => (.char r.1, r.2)
    | 'p' => (readProperty? f rest).map fun r => (.set r.1, r.2)
    | 'P' => (readProperty? f rest).map fun r => (.set r.1.complement, r.2)
    | 'd' => some (.set .digits, rest)
    | 'D' => some (.set CharSet.digits.complement, rest)
    | 's' => some (.set .spaces, rest)
    | 'S' => some (.set CharSet.spaces.complement, rest)
    | 'w' => some (.set .wordChars, rest)
    | 'W' => some (.set CharSet.wordChars.complement, rest)
    | 'a' => some (.char '\x07', rest)
    | 'f' => some (.char '\x0c', rest)
    | 't' => some (.char '\t', rest)
    | 'n' => some (.char '\n', rest)
    | 'r' => some (.char '\r', rest)
    | 'v' => some (.char '\x0b', rest)
    | 'b' => (behindBoundary? f rest).map fun rest => (.place, rest)
    | _ =>
      if ['A', 'z', 'B', '<', '>'].contains c then some (.place, rest)
      else if isPlainSign c then some (.char c, rest)
      else none

end Escape

end FormatConformance.Pattern
