import FormatConformance.Numeral
import FormatConformance.Text.Utf8

/-!
# Bytes as printable ASCII

A payload is shown in printable ASCII: tab, line feed, carriage return, both quotes and the
backslash by a backslash and a letter, every other printable character by itself, and any other
byte by `\x` and two hexadecimal digits. `unescape?` reads such a text back.
-/

namespace FormatConformance.Text.ByteEscape

/-- The two hexadecimal digits of a byte. -/
def hexPair (b : UInt8) : List Char :=
  [Numeral.digitChar (b.toNat / 16), Numeral.digitChar (b.toNat % 16)]

/-- The letter behind the backslash of the bytes that have a short escape. -/
def shortEscape? (b : UInt8) : Option Char :=
  match b.toNat with
  | 0x09 => some 't'
  | 0x0a => some 'n'
  | 0x0d => some 'r'
  | 0x22 => some '"'
  | 0x27 => some '\''
  | 0x5c => some '\\'
  | _ => none

/-- One byte in printable ASCII. -/
def escapeByte (b : UInt8) : List Char :=
  match shortEscape? b with
  | some letter => ['\\', letter]
  | none =>
    if 0x20 ≤ b.toNat ∧ b.toNat ≤ 0x7e then [Char.ofNat b.toNat]
    else '\\' :: 'x' :: hexPair b

/-- A byte string in printable ASCII. -/
def escape (bytes : Bytes) : List Char :=
  bytes.flatMap escapeByte

/-- The byte that a letter behind a backslash stands for. -/
def shortByte? (letter : Char) : Option UInt8 :=
  match letter with
  | 't' => some 0x09
  | 'n' => some 0x0a
  | 'r' => some 0x0d
  | '"' => some 0x22
  | '\'' => some 0x27
  | '\\' => some 0x5c
  | _ => none

/-- Reads an escaped text back into its bytes. -/
def unescape? : List Char → Option Bytes
  | [] => some []
  | '\\' :: 'x' :: high :: low :: rest => do
    let high ← Numeral.digitValue? 16 high
    let low ← Numeral.digitValue? 16 low
    let bytes ← unescape? rest
    return UInt8.ofNat (high * 16 + low) :: bytes
  | '\\' :: letter :: rest => do
    let b ← shortByte? letter
    let bytes ← unescape? rest
    return b :: bytes
  | c :: rest => do
    if c = '\\' then none
    let bytes ← unescape? rest
    return UInt8.ofNat c.toNat :: bytes

@[simp] theorem escape_nil : escape [] = [] := rfl

end FormatConformance.Text.ByteEscape
