import FormatConformance.Numeral
import FormatConformance.Text.Utf8

/-!
# SHA-256

The hash of a byte string: the padded message is cut into blocks of 64 bytes, and each block is
compressed into a chain of eight words. A hasher takes the message in pieces; it holds the chain of
the whole blocks, the bytes of the block that is not yet full, and the length so far.
-/

namespace FormatConformance.Sha256

/-- The chaining value. -/
structure Chain where
  a : UInt32
  b : UInt32
  c : UInt32
  d : UInt32
  e : UInt32
  f : UInt32
  g : UInt32
  h : UInt32
  deriving DecidableEq, Repr

/-- The chaining value before the first block. -/
def Chain.initial : Chain :=
  ⟨0x6a09e667, 0xbb67ae85, 0x3c6ef372, 0xa54ff53a, 0x510e527f, 0x9b05688c, 0x1f83d9ab, 0x5be0cd19⟩

/-- The words of a chaining value. -/
def Chain.words (s : Chain) : List UInt32 :=
  [s.a, s.b, s.c, s.d, s.e, s.f, s.g, s.h]

/-- The sum of two chaining values, word by word. -/
def Chain.add (s t : Chain) : Chain :=
  ⟨s.a + t.a, s.b + t.b, s.c + t.c, s.d + t.d, s.e + t.e, s.f + t.f, s.g + t.g, s.h + t.h⟩

/-- The constants of the 64 rounds. -/
def roundConstants : List UInt32 :=
  [0x428a2f98, 0x71374491, 0xb5c0fbcf, 0xe9b5dba5, 0x3956c25b, 0x59f111f1, 0x923f82a4, 0xab1c5ed5,
    0xd807aa98, 0x12835b01, 0x243185be, 0x550c7dc3, 0x72be5d74, 0x80deb1fe, 0x9bdc06a7, 0xc19bf174,
    0xe49b69c1, 0xefbe4786, 0x0fc19dc6, 0x240ca1cc, 0x2de92c6f, 0x4a7484aa, 0x5cb0a9dc, 0x76f988da,
    0x983e5152, 0xa831c66d, 0xb00327c8, 0xbf597fc7, 0xc6e00bf3, 0xd5a79147, 0x06ca6351, 0x14292967,
    0x27b70a85, 0x2e1b2138, 0x4d2c6dfc, 0x53380d13, 0x650a7354, 0x766a0abb, 0x81c2c92e, 0x92722c85,
    0xa2bfe8a1, 0xa81a664b, 0xc24b8b70, 0xc76c51a3, 0xd192e819, 0xd6990624, 0xf40e3585, 0x106aa070,
    0x19a4c116, 0x1e376c08, 0x2748774c, 0x34b0bcb5, 0x391c0cb3, 0x4ed8aa4a, 0x5b9cca4f, 0x682e6ff3,
    0x748f82ee, 0x78a5636f, 0x84c87814, 0x8cc70208, 0x90befffa, 0xa4506ceb, 0xbef9a3f7, 0xc67178f2]

/-- A word rotated to the right by less than its width. -/
def rotate (w n : UInt32) : UInt32 :=
  (w >>> n) ||| (w <<< (32 - n))

/-- The word of four bytes, the most significant first. -/
def wordOf (p q r s : UInt8) : UInt32 :=
  (p.toUInt32 <<< 24) ||| (q.toUInt32 <<< 16) ||| (r.toUInt32 <<< 8) ||| s.toUInt32

/-- The words of a byte string whose length is a multiple of four. -/
def wordsOf : Bytes → List UInt32
  | p :: q :: r :: s :: rest => wordOf p q r s :: wordsOf rest
  | _ => []

/-- The four bytes of a word, the most significant first. -/
def bytesOfWord (w : UInt32) : Bytes :=
  [(w >>> 24).toUInt8, (w >>> 16).toUInt8, (w >>> 8).toUInt8, w.toUInt8]

/-- The word that follows sixteen words of the message schedule. -/
def nextWord (window : List UInt32) : UInt32 :=
  let w := fun i => window.getD i 0
  let near := rotate (w 14) 17 ^^^ rotate (w 14) 19 ^^^ (w 14 >>> 10)
  let far := rotate (w 1) 7 ^^^ rotate (w 1) 18 ^^^ (w 1 >>> 3)
  near + w 9 + far + w 0

/-- One round with its constant; the window holds the next sixteen words of the schedule. -/
def round (state : Chain × List UInt32) (constant : UInt32) : Chain × List UInt32 :=
  let (s, window) := state
  let mixE := rotate s.e 6 ^^^ rotate s.e 11 ^^^ rotate s.e 25
  let choice := (s.e &&& s.f) ^^^ (~~~s.e &&& s.g)
  let first := s.h + mixE + choice + constant + window.getD 0 0
  let mixA := rotate s.a 2 ^^^ rotate s.a 13 ^^^ rotate s.a 22
  let majority := (s.a &&& s.b) ^^^ (s.a &&& s.c) ^^^ (s.b &&& s.c)
  let second := mixA + majority
  (⟨first + second, s.a, s.b, s.c, s.d + first, s.e, s.f, s.g⟩,
    window.drop 1 ++ [nextWord window])

/-- Compresses a block of 64 bytes into a chaining value. -/
def compress (chain : Chain) (block : Bytes) : Chain :=
  chain.add (roundConstants.foldl round (chain, wordsOf block)).1

/-- Compresses all whole blocks at the start of a byte string; the bytes behind them come back. -/
def absorb (chain : Chain) (bytes : Bytes) : Chain × Bytes :=
  match _h : bytes.drop 63 with
  | [] => (chain, bytes)
  | _ :: rest => absorb (compress chain (bytes.take 64)) rest
termination_by bytes.length
decreasing_by
  have := congrArg List.length _h
  simp only [List.length_drop, List.length_cons] at this
  omega

/-- The eight bytes of a number, the most significant first. -/
def bytesOfLength (n : Nat) : Bytes :=
  [n >>> 56, n >>> 48, n >>> 40, n >>> 32, n >>> 24, n >>> 16, n >>> 8, n].map
    UInt8.ofNat

/-- What is put behind a message of a length: a set bit, zeros up to eight bytes before the end of
a block, and the length in bits. -/
def padding (length : Nat) : Bytes :=
  0x80 :: (List.replicate ((119 - length % 64) % 64) 0 ++ bytesOfLength (8 * length))

/-- The bytes of a chaining value. -/
def Chain.bytes (s : Chain) : Bytes :=
  s.words.flatMap bytesOfWord

/-- The hash of a message. -/
def digest (message : Bytes) : Bytes :=
  (absorb Chain.initial (message ++ padding message.length)).1.bytes

/-- A hash in the making. -/
structure Hasher where
  chain : Chain
  pending : Bytes
  length : Nat

namespace Hasher

/-- Nothing hashed yet. -/
def empty : Hasher :=
  ⟨Chain.initial, [], 0⟩

/-- Takes the next piece of the message. -/
def update (h : Hasher) (piece : Bytes) : Hasher :=
  let absorbed := absorb h.chain (h.pending ++ piece)
  ⟨absorbed.1, absorbed.2, h.length + piece.length⟩

/-- The hash of the message that was taken. -/
def finish (h : Hasher) : Bytes :=
  (absorb h.chain (h.pending ++ padding h.length)).1.bytes

/-- The hash of a message given in pieces. -/
def digestPieces (pieces : List Bytes) : Bytes :=
  (pieces.foldl update empty).finish

end Hasher

/-- Bytes in hexadecimal. -/
def hex (bytes : Bytes) : String :=
  String.ofList (bytes.flatMap fun b => Numeral.paddedHex 2 b.toNat)

end FormatConformance.Sha256
