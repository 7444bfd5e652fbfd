/-!
# Characters as bytes

The UTF-8 form of a text, and the reading of arbitrary bytes back into text. Bytes are cut into
pieces: a piece is a character, or the longest run of bytes that starts a character and is broken
off. A strict reading wants characters only; a lossy one puts U+FFFD for each broken piece.
-/

namespace FormatConformance

/-- A byte string. -/
abbrev Bytes := List UInt8

namespace Text

/-- The UTF-8 bytes of a list of characters. -/
def utf8 (text : List Char) : Bytes :=
  text.flatMap String.utf8EncodeChar

/-- The UTF-8 bytes of a string. -/
def bytesOf (text : String) : Bytes :=
  utf8 text.toList

@[simp] theorem utf8_nil : utf8 [] = [] := rfl

theorem utf8_append (a b : List Char) : utf8 (a ++ b) = utf8 a ++ utf8 b := by
  simp [utf8]

namespace Utf8

/-- What a first byte announces: the bits it contributes and the bounds of the bytes that must
follow. -/
structure Opening where
  bits : Nat
  bounds : List (Nat × Nat)

/-- The openings of UTF-8; none for a byte that cannot start a character. -/
def opening (b : Nat) : Option Opening :=
  if b < 0x80 then some ⟨b, []⟩
  else if 0xc2 ≤ b ∧ b ≤ 0xdf then some ⟨b - 0xc0, [(0x80, 0xbf)]⟩
  else if b = 0xe0 then some ⟨0, [(0xa0, 0xbf), (0x80, 0xbf)]⟩
  else if b = 0xed then some ⟨0xd, [(0x80, 0x9f), (0x80, 0xbf)]⟩
  else if 0xe1 ≤ b ∧ b ≤ 0xef then some ⟨b - 0xe0, [(0x80, 0xbf), (0x80, 0xbf)]⟩
  else if b = 0xf0 then some ⟨0, [(0x90, 0xbf), (0x80, 0xbf), (0x80, 0xbf)]⟩
  else if 0xf1 ≤ b ∧ b ≤ 0xf3 then some ⟨b - 0xf0, [(0x80, 0xbf), (0x80, 0xbf), (0x80, 0xbf)]⟩
  else if b = 0xf4 then some ⟨4, [(0x80, 0x8f), (0x80, 0xbf), (0x80, 0xbf)]⟩
  else none

/-- Reads the bytes that must follow an opening: the code point if they all do, and what is left
behind the last byte that fits. -/
def follow (code : Nat) : List (Nat × Nat) → Bytes → Option Nat × Bytes
  | [], rest => (some code, rest)
  | _ :: _, [] => (none, [])
  | (low, high) :: bounds, b :: rest =>
    if low ≤ b.toNat ∧ b.toNat ≤ high then follow (code * 64 + (b.toNat - 0x80)) bounds rest
    else (none, b :: rest)

theorem follow_length (code : Nat) (bounds : List (Nat × Nat)) (bytes : Bytes) :
    (follow code bounds bytes).2.length ≤ bytes.length := by
  induction bounds generalizing code bytes with
  | nil => simp [follow]
  | cons bound bounds ih =>
    cases bytes with
    | nil => simp [follow]
    | cons b rest =>
      simp only [follow]
      split
      · exact Nat.le_succ_of_le (ih _ rest)
      · simp

/-- The first piece of a nonempty byte string, none when it is broken, and what is left. -/
def piece (b : UInt8) (rest : Bytes) : Option Char × Bytes :=
  match opening b.toNat with
  | none => (none, rest)
  | some o =>
    let read := follow o.bits o.bounds rest
    (read.1.map Char.ofNat, read.2)

theorem piece_length (b : UInt8) (rest : Bytes) : (piece b rest).2.length ≤ rest.length := by
  unfold piece
  split
  · simp
  · exact follow_length _ _ _

/-- All pieces of a byte string, none standing for a broken one. -/
def pieces : Bytes → List (Option Char)
  | [] => []
  | b :: rest => (piece b rest).1 :: pieces (piece b rest).2
termination_by bytes => bytes.length
decreasing_by exact Nat.lt_succ_of_le (piece_length b rest)

end Utf8

/-- The text that the bytes spell, if they are UTF-8. -/
def ofUtf8? (bytes : Bytes) : Option (List Char) :=
  (Utf8.pieces bytes).mapM id

/-- The text that the bytes spell, with U+FFFD for every piece that is no character. -/
def ofUtf8Lossy (bytes : Bytes) : List Char :=
  (Utf8.pieces bytes).map (Option.getD · '\ufffd')

end Text

end FormatConformance
