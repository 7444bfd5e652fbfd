import FormatConformance.Proofs.Numeral
import FormatConformance.Proofs.Sha256.Standard
import FormatConformance.Report

/-!
# Fingerprints

An artifact is known by the hash of its content, written in 64 hexadecimal digits. The content
arrives in pieces, and how it was cut leaves no trace: `sha256_ofPieces` gives the text of the
fingerprint from the bytes of the content alone, by the definition of the hash as a number
(`Sha256.Standard.hash`) and the digits of the core library.

The text is written byte by byte, each in two digits, while the hash is one number.
`Sha256.paddedHex_number` carries the digits over from the one to the other, a byte at a time.
-/

namespace FormatConformance

namespace Numeral

theorem paddedHex_of_lt {width d : Nat} (small : d < 16) :
    paddedHex (width + 1) d = List.replicate width '0' ++ [digitChar d] := by
  rw [paddedHex, padLeft, digits_of_lt small, List.length_singleton, Nat.add_sub_cancel]

/-- A digit behind a number. -/
theorem paddedHex_mul_add {width n d : Nat} (some_width : 0 < width) (small : d < 16) :
    paddedHex (width + 1) (n * 16 + d) = paddedHex width n ++ [digitChar d] := by
  -- Zero is the one number whose digits would become one too many.
  by_cases zero : n = 0
  · obtain ⟨width, rfl⟩ := Nat.exists_eq_succ_of_ne_zero some_width.ne'
    rw [zero, Nat.zero_mul, Nat.zero_add, paddedHex_of_lt small, paddedHex_of_lt (by decide),
      List.replicate_succ']
    rfl
  · have digits_eq : digits 16 (n * 16 + d) = digits 16 n ++ [digitChar d] := by
      rw [digits_of_le (by decide) (by omega), show (n * 16 + d) / 16 = n by omega,
        show (n * 16 + d) % 16 = d by omega]
    rw [paddedHex, paddedHex, padLeft, padLeft, digits_eq, List.length_append,
      List.length_singleton, Nat.add_sub_add_right, List.append_assoc]

/-- A byte behind a number. -/
theorem paddedHex_mul_add_byte {width : Nat} (some_width : 0 < width) (n : Nat) (b : UInt8) :
    paddedHex (width + 2) (n * 256 + b.toNat) = paddedHex width n ++ paddedHex 2 b.toNat := by
  have byte : paddedHex 2 (b.toNat / 16 * 16 + b.toNat % 16) =
      paddedHex 1 (b.toNat / 16) ++ [digitChar (b.toNat % 16)] :=
    paddedHex_mul_add (by decide) (Nat.mod_lt _ (by decide))
  have high : b.toNat / 16 < 16 := Nat.div_lt_of_lt_mul b.toNat_lt
  have split : n * 256 + b.toNat = (n * 16 + b.toNat / 16) * 16 + b.toNat % 16 := by omega
  rw [Nat.div_add_mod'] at byte
  rw [split, paddedHex_mul_add (by omega) (Nat.mod_lt _ (by decide)),
    paddedHex_mul_add some_width high, byte, paddedHex_of_lt high, List.append_assoc]
  rfl

end Numeral

namespace Sha256

open Numeral

/-- Bytes behind a number. -/
theorem paddedHex_number {width : Nat} (some_width : 0 < width) (n : Nat) (bytes : Bytes) :
    paddedHex (width + 2 * bytes.length) (n * 256 ^ bytes.length + Standard.number bytes) =
      paddedHex width n ++ bytes.flatMap fun b => paddedHex 2 b.toNat := by
  -- The number in front grows by a byte in each step, and two places with it.
  induction bytes generalizing width n with
  | nil => simp [number_nil]
  | cons b bytes ih =>
    have value : n * 256 ^ (b :: bytes).length + Standard.number (b :: bytes) =
        (n * 256 + b.toNat) * 256 ^ bytes.length + Standard.number bytes := by
      rw [number_cons, List.length_cons]
      ring
    have places : width + 2 * (b :: bytes).length = width + 2 + 2 * bytes.length := by
      rw [List.length_cons]
      omega
    rw [value, places, ih (by omega), paddedHex_mul_add_byte some_width, List.flatMap_cons,
      List.append_assoc]

/-- The text of bytes is that of the number that they write. -/
theorem hex_eq {bytes : Bytes} (nonempty : bytes ≠ []) :
    hex bytes = String.ofList (paddedHex (2 * bytes.length) (Standard.number bytes)) := by
  obtain ⟨b, bytes, rfl⟩ := List.exists_cons_of_ne_nil nonempty
  -- The first byte is the number in front, so that there is at least one digit.
  have whole := paddedHex_number (show 0 < 2 by decide) b.toNat bytes
  rw [hex, List.flatMap_cons, ← whole, number_cons, List.length_cons]
  congr 2
  omega

theorem hex_digest (message : Bytes) :
    hex (digest message) = String.ofList (paddedHex 64 (Standard.hash message)) := by
  have nonempty : digest message ≠ [] := List.ne_nil_of_length_pos (by rw [length_digest]; decide)
  rw [hex_eq nonempty, number_digest, length_digest]

theorem number_lt (bytes : Bytes) : Standard.number bytes < 256 ^ bytes.length := by
  have length : (bytes.reverse.map UInt8.toNat).length = bytes.length := by
    rw [List.length_map, List.length_reverse]
  rw [← length]
  refine Nat.ofDigits_lt_base_pow_length (by decide) fun n mem => ?_
  obtain ⟨b, -, rfl⟩ := List.mem_map.1 mem
  exact b.toNat_lt

/-- The hash has 256 bits. -/
theorem hash_lt (message : Bytes) : Standard.hash message < 16 ^ 64 := by
  have bound := number_lt (digest message)
  rwa [number_digest, length_digest] at bound

end Sha256

namespace Artifact

open Numeral Sha256

/-- However a content is cut into pieces, the hash that is taken piece by piece is that of the
content as a whole, and the fingerprint is its text: 64 digits in lower case. -/
theorem sha256_ofPieces (path : String) (pieces : List Bytes) :
    Hasher.digestPieces pieces = digest pieces.flatten ∧
      ∃ text, ofPieces path pieces = ⟨path, String.ofList text⟩ ∧
        text = (Nat.toDigits 16 (Standard.hash pieces.flatten)).leftpad 64 '0' ∧
        text.length = 64 ∧ ∀ c ∈ text, c ∈ "0123456789abcdef".toList := by
  have lower : ∀ d < 16, digitChar d ∈ "0123456789abcdef".toList := by decide
  have whole : Hasher.digestPieces pieces = digest pieces.flatten := Hasher.digestPieces_eq pieces
  refine ⟨whole, paddedHex 64 (Standard.hash pieces.flatten), ?_, paddedHex_eq_leftpad 64 _,
    length_paddedHex (by decide) (hash_lt _), forall_mem_paddedHex lower _ _⟩
  rw [ofPieces, whole, hex_digest]

example : (ofPieces "" [Text.bytesOf "a", Text.bytesOf "bc"]).sha256 =
    "ba7816bf8f01cfea414140de5dae2223b00361a396177a9cb410ff61f20015ad" := by
  decide +kernel

end Artifact

end FormatConformance
