import FormatConformance.Proofs.Numeral
import FormatConformance.Proofs.Text.Utf8
import FormatConformance.Text.ByteEscape

/-!
# Escaped bytes are unambiguous

The text of a byte in printable ASCII says where it ends and which byte it stands for, whatever
stands behind it (`unescape?_escapeByte`). So a byte string is read back from its text, and the text
holds no line feed that could be taken for the end of a line around it.
-/

namespace FormatConformance.Text.ByteEscape

open Numeral (digitChar digitValue?_digitChar)

theorem escape_cons (b : UInt8) (bytes : Bytes) :
    escape (b :: bytes) = escapeByte b ++ escape bytes :=
  List.flatMap_cons

/-! ## One byte -/

theorem shortByte?_of_shortEscape? {b : UInt8} {letter : Char}
    (short : shortEscape? b = some letter) : letter ≠ 'x' ∧ shortByte? letter = some b := by
  have table : ∀ b : UInt8, (shortEscape? b).all
      (fun letter => letter ≠ 'x' ∧ shortByte? letter = some b) = true :=
    forall_byte (by decide +kernel)
  have entry := table b
  rw [short] at entry
  exact of_decide_eq_true entry

theorem shortEscape?_backslash : shortEscape? 0x5c = some '\\' := rfl

/-- Every printable character but the backslash stands for itself. -/
theorem unescape?_cons {c : Char} (other : c ≠ '\\') (rest : List Char) :
    unescape? (c :: rest) = (unescape? rest).map (UInt8.ofNat c.toNat :: ·) := by
  rw [unescape?]
  · rw [if_neg other]
    cases unescape? rest <;> rfl
  · exact fun _ _ _ same => absurd same other
  · exact fun _ _ same => absurd same other

theorem unescape?_short {letter : Char} {b : UInt8} (named : shortByte? letter = some b)
    (other : letter ≠ 'x') (rest : List Char) :
    unescape? ('\\' :: letter :: rest) = (unescape? rest).map (b :: ·) := by
  rw [unescape?, named]
  · cases unescape? rest <;> rfl
  · exact fun _ _ _ same => absurd same other

theorem unescape?_hexPair (b : UInt8) (rest : List Char) :
    unescape? ('\\' :: 'x' :: (hexPair b ++ rest)) = (unescape? rest).map (b :: ·) := by
  have high : b.toNat / 16 < 16 := Nat.div_lt_of_lt_mul b.toNat_lt
  have low : b.toNat % 16 < 16 := Nat.mod_lt _ (by decide)
  have whole : UInt8.ofNat (b.toNat / 16 * 16 + b.toNat % 16) = b := by
    rw [Nat.div_add_mod', UInt8.ofNat_toNat]
  show unescape? ('\\' :: 'x' :: digitChar (b.toNat / 16) :: digitChar (b.toNat % 16) :: rest) = _
  rw [unescape?, digitValue?_digitChar le_rfl high, digitValue?_digitChar le_rfl low]
  -- Both digits have been read; they are put together to the byte they were taken from.
  show (unescape? rest).bind (fun bytes => some (_ :: bytes)) = _
  rw [whole]
  cases unescape? rest <;> rfl

/-- The text of a byte is read as that byte, and what stands behind it is left. -/
theorem unescape?_escapeByte (b : UInt8) (rest : List Char) :
    unescape? (escapeByte b ++ rest) = (unescape? rest).map (b :: ·) := by
  rw [escapeByte]
  cases short : shortEscape? b with
  | some letter =>
    obtain ⟨other, named⟩ := shortByte?_of_shortEscape? short
    exact unescape?_short named other rest
  | none =>
    by_cases printable : 0x20 ≤ b.toNat ∧ b.toNat ≤ 0x7e
    · have code : (Char.ofNat b.toNat).toNat = b.toNat := toNat_ofNat (isValidChar_iff.2 (by omega))
      -- The reader would take a backslash for an escape, but a backslash has a short form and is
      -- not here.
      have other : Char.ofNat b.toNat ≠ '\\' := by
        intro same
        have backslash : b = 0x5c := by
          rw [← UInt8.toNat_inj, ← code, same]
          rfl
        rw [backslash, shortEscape?_backslash] at short
        cases short
      simp only [if_pos printable, List.singleton_append]
      rw [unescape?_cons other, code, UInt8.ofNat_toNat]
    · simp only [if_neg printable]
      exact unescape?_hexPair b rest

/-! ## Byte strings -/

/-- An escaped byte string is read back. -/
theorem unescape?_escape (bytes : Bytes) : unescape? (escape bytes) = some bytes := by
  induction bytes with
  | nil => rfl
  | cons b bytes ih =>
    rw [escape_cons, unescape?_escapeByte, ih]
    rfl

/-- A character of printable ASCII. -/
def Printable (c : Char) : Prop :=
  0x20 ≤ c.toNat ∧ c.toNat ≤ 0x7e

instance (c : Char) : Decidable (Printable c) :=
  inferInstanceAs (Decidable (_ ∧ _))

theorem printable_of_mem_escapeByte {b : UInt8} {c : Char} (mem : c ∈ escapeByte b) :
    Printable c := by
  have table : ∀ b : UInt8, (escapeByte b).all (fun c => Printable c) = true :=
    forall_byte (by decide +kernel)
  exact of_decide_eq_true (List.all_eq_true.1 (table b) c mem)

theorem printable_of_mem_escape {bytes : Bytes} {c : Char} (mem : c ∈ escape bytes) :
    Printable c := by
  obtain ⟨b, -, shown⟩ := List.mem_flatMap.1 mem
  exact printable_of_mem_escapeByte shown

end FormatConformance.Text.ByteEscape
