import FormatConformance.Text.Utf8
import Mathlib.Data.List.Infix

/-!
# ASCII in UTF-8

A character of ASCII is one byte, and every byte of another character is beyond ASCII. So a text of
ASCII stands in the bytes of a text just where it stands among its characters
(`utf8_infix_utf8_iff`), and searching the bytes is searching the text: no byte of a longer
character is taken for a mark or for the NUL that ends a text.
-/

namespace FormatConformance.Text

/-! ## Code points -/

/-- A code point is no surrogate. -/
theorem isValidChar_iff {n : Nat} : n.isValidChar ↔ n < 0xd800 ∨ 0xdfff < n ∧ n < 0x110000 :=
  Iff.rfl

theorem toNat_ofNat {n : Nat} (valid : n.isValidChar) : (Char.ofNat n).toNat = n := by
  rw [Char.ofNat, dif_pos valid]
  rfl

/-- A statement about all bytes is one about the numbers below 256. -/
theorem forall_byte {P : UInt8 → Prop} (below : ∀ n < 256, P (UInt8.ofNat n)) (b : UInt8) :
    P b := by
  have self : UInt8.ofNat b.toNat = b := UInt8.ofNat_toNat
  exact self ▸ below b.toNat b.toNat_lt

/-! ## Characters as bytes -/

/-- The characters of one byte. -/
def Ascii (c : Char) : Prop :=
  c.toNat < 0x80

instance (c : Char) : Decidable (Ascii c) :=
  inferInstanceAs (Decidable (c.toNat < 0x80))

theorem utf8_cons (c : Char) (text : List Char) :
    utf8 (c :: text) = String.utf8EncodeChar c ++ utf8 text :=
  List.flatMap_cons

theorem utf8EncodeChar_of_ascii {c : Char} (ascii : Ascii c) :
    String.utf8EncodeChar c = [UInt8.ofNat c.toNat] := by
  have small : c.val.toNat ≤ 127 := Nat.le_of_lt_succ ascii
  rw [String.utf8EncodeChar]
  simp only [if_pos small]
  rfl

theorem utf8_cons_of_ascii {c : Char} (ascii : Ascii c) (text : List Char) :
    utf8 (c :: text) = UInt8.ofNat c.toNat :: utf8 text := by
  rw [utf8_cons, utf8EncodeChar_of_ascii ascii, List.singleton_append]

theorem toNat_ofNat_of_ascii {c : Char} (ascii : Ascii c) :
    (UInt8.ofNat c.toNat).toNat = c.toNat := by
  have small : c.toNat < 0x80 := ascii
  rw [UInt8.toNat_ofNat']
  omega

theorem eq_of_byte_eq {c d : Char} (first : Ascii c) (second : Ascii d)
    (same : UInt8.ofNat c.toNat = UInt8.ofNat d.toNat) : c = d := by
  have number : c.toNat = d.toNat := by
    rw [← toNat_ofNat_of_ascii first, ← toNat_ofNat_of_ascii second, same]
  rw [← Char.ofNat_toNat c, number, Char.ofNat_toNat]

/-- A byte beyond ASCII. -/
theorem le_toNat_of_not_ascii {c : Char} (beyond : ¬Ascii c) :
    ∀ b ∈ String.utf8EncodeChar c, 0x80 ≤ b.toNat := by
  have large : ¬c.val.toNat ≤ 127 := fun small => beyond (Nat.lt_succ_of_le small)
  rw [String.utf8EncodeChar]
  simp only [if_neg large]
  split_ifs
  all_goals
    simp only [List.forall_mem_cons, UInt8.toNat_ofNat', List.not_mem_nil, false_imp_iff,
      implies_true, and_true]
    omega

/-! ## Where a text of ASCII stands

A part of ASCII can only be found at the start of a character: the bytes behind the first one of a
longer character are all beyond ASCII. -/

section

variable {c : Char} {part text : List Char}

/-- Bytes that start with a character of ASCII do not start with a byte beyond it. -/
theorem not_prefix_of_beyond {bytes rest behind : Bytes} (ascii : Ascii c) (nonempty : bytes ≠ [])
    (beyond : ∀ b ∈ bytes, 0x80 ≤ b.toNat) :
    ¬UInt8.ofNat c.toNat :: rest <+: bytes ++ behind := by
  intro starts
  obtain ⟨b, bytes, rfl⟩ := List.exists_cons_of_ne_nil nonempty
  -- The first bytes would have to be the same, but one is below `0x80` and the other is not.
  obtain ⟨same, -⟩ := List.cons_prefix_cons.1 starts
  have large : 0x80 ≤ b.toNat := beyond b (.head _)
  have small : c.toNat < 0x80 := ascii
  rw [← toNat_ofNat_of_ascii ascii, same] at small
  omega

theorem utf8_prefix_utf8_iff (ascii : ∀ c ∈ part, Ascii c) :
    utf8 part <+: utf8 text ↔ part <+: text := by
  induction part generalizing text with
  | nil => simp
  | cons c part ih =>
    obtain ⟨first, others⟩ := List.forall_mem_cons.1 ascii
    rw [utf8_cons_of_ascii first]
    cases text with
    | nil => simp
    | cons d text =>
      -- A character of ASCII is compared as one byte; any other differs in its first byte already.
      by_cases second : Ascii d
      · rw [utf8_cons_of_ascii second, List.cons_prefix_cons, List.cons_prefix_cons, ih others]
        exact and_congr_left fun _ => ⟨eq_of_byte_eq first second, fun same => by rw [same]⟩
      · have other : c ≠ d := fun same => second (same ▸ first)
        have apart : ¬UInt8.ofNat c.toNat :: utf8 part <+: String.utf8EncodeChar d ++ utf8 text :=
          not_prefix_of_beyond first String.utf8EncodeChar_ne_nil (le_toNat_of_not_ascii second)
        simp [utf8_cons, apart, other]

/-- Bytes beyond ASCII are passed over in the search for a text of ASCII. -/
theorem infix_append_of_beyond {bytes rest behind : Bytes} (ascii : Ascii c)
    (beyond : ∀ b ∈ bytes, 0x80 ≤ b.toNat) :
    UInt8.ofNat c.toNat :: rest <:+: bytes ++ behind ↔ UInt8.ofNat c.toNat :: rest <:+: behind := by
  induction bytes with
  | nil => rfl
  | cons b bytes ih =>
    have apart : ¬UInt8.ofNat c.toNat :: rest <+: b :: bytes ++ behind :=
      not_prefix_of_beyond ascii (List.cons_ne_nil b bytes) beyond
    rw [List.cons_append, List.infix_cons_iff, ← List.cons_append, or_iff_right apart,
      ih (List.forall_mem_cons.1 beyond).2]

/-- A text of ASCII stands in the bytes of a text just where it stands among its characters. -/
theorem utf8_infix_utf8_iff (ascii : ∀ c ∈ part, Ascii c) :
    utf8 part <:+: utf8 text ↔ part <:+: text := by
  cases part with
  | nil => simp
  | cons c part =>
    have first : Ascii c := ascii c (.head _)
    induction text with
    | nil => simp [utf8_cons_of_ascii first]
    | cons d text ih =>
      by_cases second : Ascii d
      · have here : utf8 (c :: part) <+: utf8 (d :: text) ↔ c :: part <+: d :: text :=
          utf8_prefix_utf8_iff ascii
        rw [utf8_cons_of_ascii second] at here ⊢
        rw [List.infix_cons_iff, List.infix_cons_iff, here]
        exact or_congr_right ih
      · -- The search starts anew behind the whole character, not inside it.
        have other : c ≠ d := fun same => second (same ▸ first)
        have later : ¬c :: part <+: d :: text := fun starts =>
          other (List.cons_prefix_cons.1 starts).1
        calc
          utf8 (c :: part) <:+: utf8 (d :: text) ↔ utf8 (c :: part) <:+: utf8 text := by
            rw [utf8_cons_of_ascii first, utf8_cons d,
              infix_append_of_beyond first (le_toNat_of_not_ascii second)]
          _ ↔ c :: part <:+: text := ih
          _ ↔ c :: part <:+: d :: text := by rw [List.infix_cons_iff, or_iff_right later]

theorem mem_utf8_iff (ascii : Ascii c) : UInt8.ofNat c.toNat ∈ utf8 text ↔ c ∈ text := by
  have found : utf8 [c] <:+: utf8 text ↔ [c] <:+: text :=
    utf8_infix_utf8_iff (List.forall_mem_singleton.2 ascii)
  rwa [utf8_cons_of_ascii ascii, utf8_nil, List.singleton_infix_iff,
    List.singleton_infix_iff] at found

/-- The bytes of a text hold a zero just when the text holds a NUL. -/
theorem zero_mem_utf8_iff : 0 ∈ utf8 text ↔ '\x00' ∈ text :=
  mem_utf8_iff (c := '\x00') (by decide)

end

end FormatConformance.Text
