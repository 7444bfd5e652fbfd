import FormatConformance.Argument
import FormatConformance.Proofs.Numeral
import FormatConformance.Proofs.Text.Trimming

/-!
# Numbers typed back

A whole number is typed in decimal, a floating point number by the bit pattern that its literal
carries in a comment (`shownPattern_patternComment`). What is typed is read as the number that it
spells when that fits the entry point and is refused when it does not. For patterns this takes two
readers: one of more than 64 bits is not refused where patterns are read but left to the reader of
decimals, and that one takes no text that starts with `0x` (`read_hexadecimal`). White space around
the text does not count, and none of these texts has white space of its own.
-/

namespace FormatConformance.Argument

open Numeral (IsDigit Spells SpellsUnsigned SpellsSigned digitChar hexPattern maxWord32 maxWord64
  readUnsigned readUnsigned_eq_ok_iff readSigned_eq_ok_iff readSigned_signedDecimal signedDecimal)
open Text (Padded Unpadded isBlank)

/-! ## Texts without white space -/

theorem isBlank_of_isDigit {base : Nat} {c : Char} {d : Nat} (hexadecimal : base ≤ 16)
    (digit : IsDigit base c d) : isBlank c = false := by
  have table : ∀ d < 16, isBlank (digitChar d) = false ∧ isBlank (digitChar d).toUpper = false := by
    decide
  obtain ⟨below, rfl | rfl⟩ := digit
  · exact (table d (by omega)).1
  · exact (table d (by omega)).2

theorem solid_of_spells {base n : Nat} {text : List Char} (hexadecimal : base ≤ 16)
    (spells : Spells base text n) : ∀ c ∈ text, isBlank c = false := by
  obtain ⟨values, each, -⟩ := spells
  induction each with
  | nil => simp
  | cons digit _ ih => exact List.forall_mem_cons.2 ⟨isBlank_of_isDigit hexadecimal digit, ih⟩

theorem solid_of_spellsUnsigned {base n : Nat} {text : List Char} (hexadecimal : base ≤ 16)
    (spells : SpellsUnsigned base text n) : ∀ c ∈ text, isBlank c = false := by
  obtain ⟨digits, rfl | rfl, -, spells⟩ := spells
  · exact solid_of_spells hexadecimal spells
  · exact List.forall_mem_cons.2 ⟨by decide, solid_of_spells hexadecimal spells⟩

theorem unpadded_of_spellsSigned {text : List Char} {value : Int}
    (spells : SpellsSigned text value) : Unpadded text := by
  refine Text.unpadded_of_forall_mem ?_
  obtain ⟨n, spells, -⟩ | ⟨digits, n, rfl, -, spells, -⟩ := spells
  · exact solid_of_spellsUnsigned (by decide) spells
  · exact List.forall_mem_cons.2 ⟨by decide, solid_of_spells (by decide) spells⟩

/-- A pattern in hexadecimal behind `0x` or `0X`, digits in either case. -/
def SpellsPattern (text : List Char) (n : Nat) : Prop :=
  ∃ x digits, (x = 'x' ∨ x = 'X') ∧ text = '0' :: x :: digits ∧ SpellsUnsigned 16 digits n

theorem unpadded_of_spellsPattern {text : List Char} {n : Nat} (spells : SpellsPattern text n) :
    Unpadded text := by
  refine Text.unpadded_of_forall_mem ?_
  obtain ⟨x, digits, mark, rfl, spells⟩ := spells
  have solid : isBlank x = false := by
    rcases mark with rfl | rfl <;> decide
  exact List.forall_mem_cons.2 ⟨by decide,
    List.forall_mem_cons.2 ⟨solid, solid_of_spellsUnsigned (by decide) spells⟩⟩

/-! ## Reading behind the white space -/

/-- What is typed for an entry point is refused, with some message. -/
def Refused (entry : EntryPoint) (typed : String) : Prop :=
  ∃ message, read entry typed = .error message

theorem read_of_padded {entry : EntryPoint} {typed : String} {text : List Char} {a : Argument}
    (around : Padded typed.toList text) (unpadded : Unpadded text)
    (trimmed : readTrimmed entry text = .ok a) : read entry typed = .ok a := by
  rw [read, Text.trim_of_padded around unpadded]
  simp only [trimmed]

theorem refused_of_padded {entry : EntryPoint} {typed : String} {text : List Char} {cause : Fault}
    (around : Padded typed.toList text) (unpadded : Unpadded text)
    (trimmed : readTrimmed entry text = .error cause) : Refused entry typed := by
  rw [Refused, read, Text.trim_of_padded around unpadded]
  simp only [trimmed]
  exact ⟨_, rfl⟩

/-! ## Whole numbers -/

theorem spellsSigned_signedDecimal (value : Int) : SpellsSigned (signedDecimal value) value := by
  have read : Numeral.readSigned value.natAbs value.natAbs (signedDecimal value) = .ok value :=
    readSigned_signedDecimal (by omega) (by omega)
  exact (readSigned_eq_ok_iff.1 read).2

theorem readTrimmed_int {text : List Char} {n : Int32} (spells : SpellsSigned text n.toInt) :
    readTrimmed .int text = .ok (.int n) := by
  have least : -2 ^ 31 ≤ n.toInt := n.le_toInt
  have greatest : n.toInt < 2 ^ 31 := n.toInt_lt
  have read : Numeral.readSigned 0x80000000 0x7fffffff text = .ok n.toInt :=
    readSigned_eq_ok_iff.2 ⟨by omega, spells⟩
  simp only [readTrimmed, read, Int32.ofInt_toInt]

theorem readTrimmed_int_of_beyond {text : List Char} {value : Int}
    (spells : SpellsSigned text value) (beyond : value < -2 ^ 31 ∨ 2 ^ 31 ≤ value) :
    ∃ cause, readTrimmed .int text = .error cause := by
  cases read : Numeral.readSigned 0x80000000 0x7fffffff text with
  | error cause => exact ⟨.numeral cause, by simp only [readTrimmed, read]⟩
  | ok other =>
    obtain ⟨bounds, spells_other⟩ := readSigned_eq_ok_iff.1 read
    obtain rfl := spells.unique spells_other
    omega

/-! ## Patterns -/

/-- The helper that reads patterns takes those of 64 bits and no other. -/
theorem hexBits?_of_spellsPattern {text : List Char} {n : Nat} (spells : SpellsPattern text n) :
    hexBits? text = if n ≤ maxWord64 then some n else none := by
  obtain ⟨x, digits, mark, rfl, spells⟩ := spells
  have body : Numeral.hexBody? ('0' :: x :: digits) = some digits := by
    rcases mark with rfl | rfl <;> rfl
  have reads : hexBits? ('0' :: x :: digits) = (readUnsigned 16 maxWord64 digits).toOption := by
    rw [hexBits?, body]
    rfl
  rw [reads]
  -- What the reader takes is spelled by the text, and a text spells one number only.
  split_ifs with fits
  · rw [(readUnsigned_eq_ok_iff (by decide) (by decide)).2 ⟨fits, spells⟩]
    rfl
  · cases read : readUnsigned 16 maxWord64 digits with
    | error => rfl
    | ok m =>
      obtain ⟨small, spells_other⟩ := (readUnsigned_eq_ok_iff (by decide) (by decide)).1 read
      obtain rfl : m = n := spells_other.unique (by decide) (by decide) spells
      exact absurd small fits

theorem scientific?_hexadecimal {x : Char} (mark : x = 'x' ∨ x = 'X') (rest : List Char) :
    Ieee.Reading.scientific? ('0' :: x :: rest) = none := by
  have zero : '0'.isDigit = true := by decide
  obtain ⟨letter, no_point, no_exponent⟩ : x.isDigit = false ∧ x ≠ '.' ∧ ¬(x = 'e' ∨ x = 'E') := by
    rcases mark with rfl | rfl <;> decide
  -- The zero is read as digits, and the mark behind it is neither a point nor an exponent.
  have run : Numeral.digitRun ('0' :: x :: rest) = (['0'], x :: rest) := by
    simp [Numeral.digitRun, zero, letter]
  simp [Ieee.Reading.scientific?, run, no_point, no_exponent]

theorem word?_zero (l : Ieee.Layout) (rest : List Char) :
    Ieee.Reading.word? l ('0' :: rest) = none := by
  have other {word : String} (first : word.toList.head? ≠ some '0') :
      String.ofList (Text.lowerAscii ('0' :: rest)) ≠ word := by
    rintro rfl
    rw [String.toList_ofList] at first
    exact first rfl
  have nan := @other "nan" (by decide)
  have inf := @other "inf" (by decide)
  have infinity := @other "infinity" (by decide)
  simp [Ieee.Reading.word?, nan, inf, infinity]

/-- The reader of decimals takes no text that starts as a pattern does. -/
theorem read_hexadecimal (l : Ieee.Layout) {x : Char} (mark : x = 'x' ∨ x = 'X')
    (rest : List Char) : Ieee.Reading.read l ('0' :: x :: rest) = .error .invalid := by
  have none_read : Ieee.Reading.magnitude? l ('0' :: x :: rest) = none := by
    rw [Ieee.Reading.magnitude?, scientific?_hexadecimal mark]
    exact word?_zero l (x :: rest)
  simp [Ieee.Reading.read, none_read]

/-- What is read of a pattern for single precision. -/
theorem readTrimmed_single {text : List Char} {n : Nat} (spells : SpellsPattern text n) :
    readTrimmed .single text =
      if n ≤ maxWord32 then .ok (.single (UInt32.ofNat n))
      else if n ≤ maxWord64 then .error (.numeral .tooLarge) else .error (.float .invalid) := by
  have bits := hexBits?_of_spellsPattern spells
  have smaller : maxWord32 ≤ maxWord64 := by decide
  obtain ⟨x, digits, mark, rfl, -⟩ := spells
  by_cases fits : n ≤ maxWord64
  · rw [if_pos fits] at bits
    simp only [readTrimmed, bits, if_pos fits]
  · -- Beyond 64 bits the decimal reader is asked, which refuses it with a fault of its own.
    have larger : ¬n ≤ maxWord32 := fun small => fits (small.trans smaller)
    rw [if_neg fits] at bits
    simp only [readTrimmed, bits, read_hexadecimal Ieee.single mark digits, if_neg fits,
      if_neg larger]

/-- What is read of a pattern for double precision. -/
theorem readTrimmed_double {text : List Char} {n : Nat} (spells : SpellsPattern text n) :
    readTrimmed .double text =
      if n ≤ maxWord64 then .ok (.double (UInt64.ofNat n)) else .error (.float .invalid) := by
  have bits := hexBits?_of_spellsPattern spells
  obtain ⟨x, digits, mark, rfl, -⟩ := spells
  by_cases fits : n ≤ maxWord64
  · rw [if_pos fits] at bits
    simp only [readTrimmed, bits, if_pos fits]
  · rw [if_neg fits] at bits
    simp only [readTrimmed, bits, read_hexadecimal Ieee.double mark digits, if_neg fits]

/-! ## Literals -/

/-- The pattern in the comment at the end of a literal: the word in front of the closing mark. -/
def shownPattern (literal : List Char) : List Char :=
  ((literal.reverse.drop 3).takeWhile (· ≠ ' ')).reverse

theorem shownPattern_patternComment (front : List Char) (width bits : Nat) :
    shownPattern (front ++ patternComment width bits) = hexPattern width bits := by
  have word : ∀ c ∈ (hexPattern width bits).reverse, decide (c ≠ ' ') = true := by
    have digit : ∀ d < 16, digitChar d ≠ ' ' := by decide
    intro c mem
    rw [List.mem_reverse, hexPattern, List.mem_cons, List.mem_cons] at mem
    obtain rfl | rfl | mem := mem
    · decide
    · decide
    · have each : ∀ c ∈ Numeral.paddedHex width bits, c ≠ ' ' :=
        Numeral.forall_mem_paddedHex digit width bits
      exact decide_eq_true (each c mem)
  -- Seen from its end, a literal is the closing mark, the pattern reversed, and a blank.
  have text : (front ++ patternComment width bits).reverse.drop 3 =
      (hexPattern width bits).reverse ++ ' ' :: ('*' :: '/' :: ' ' :: front.reverse) := by
    simp [patternComment]
  rw [shownPattern, text, List.takeWhile_append_of_pos word]
  simp

theorem spellsPattern_hexPattern (width n : Nat) : SpellsPattern (hexPattern width n) n := by
  have read : readUnsigned 16 n (Numeral.paddedHex width n) = .ok n :=
    Numeral.readUnsigned_paddedHex le_rfl
  exact ⟨'x', _, .inl rfl, rfl, ((readUnsigned_eq_ok_iff (by decide) (by decide)).1 read).2⟩

theorem shownPattern_literal_single (bits : UInt32) :
    shownPattern (literal (.single bits)) = hexPattern 8 bits.toNat :=
  shownPattern_patternComment _ 8 bits.toNat

theorem shownPattern_literal_double (bits : UInt64) :
    shownPattern (literal (.double bits)) = hexPattern 16 bits.toNat :=
  shownPattern_patternComment _ 16 bits.toNat

/-! ## Numbers typed back -/

/-- What is typed for a number, with white space around it or not, is read as that very number or
refused: whole numbers in decimal, floating point numbers by the pattern that their literal shows.
Nothing is refused that the entry point has, and nothing is cut off that it does not have. -/
theorem read_number_exact :
    (∀ (n : Int32) typed, Padded typed.toList (literal (.int n)) → read .int typed = .ok (.int n)) ∧
    (∀ text value typed, SpellsSigned text value → value < -2 ^ 31 ∨ 2 ^ 31 ≤ value →
      Padded typed.toList text → Refused .int typed) ∧
    (∀ (bits : UInt32) typed, Padded typed.toList (shownPattern (literal (.single bits))) →
      read .single typed = .ok (.single bits)) ∧
    (∀ (bits : UInt64) typed, Padded typed.toList (shownPattern (literal (.double bits))) →
      read .double typed = .ok (.double bits)) ∧
    (∀ text n typed, SpellsPattern text n → 2 ^ 32 ≤ n → Padded typed.toList text →
      Refused .single typed) ∧
    ∀ text n typed, SpellsPattern text n → 2 ^ 64 ≤ n → Padded typed.toList text →
      Refused .double typed := by
  refine ⟨?_, ?_, ?_, ?_, ?_, ?_⟩
  · intro n typed around
    have spells := spellsSigned_signedDecimal n.toInt
    exact read_of_padded around (unpadded_of_spellsSigned spells) (readTrimmed_int spells)
  · intro text value typed spells beyond around
    obtain ⟨cause, refused⟩ := readTrimmed_int_of_beyond spells beyond
    exact refused_of_padded around (unpadded_of_spellsSigned spells) refused
  · intro bits typed around
    rw [shownPattern_literal_single] at around
    have spells := spellsPattern_hexPattern 8 bits.toNat
    have fits : bits.toNat ≤ maxWord32 := Nat.le_of_lt_succ bits.toNat_lt
    apply read_of_padded around (unpadded_of_spellsPattern spells)
    rw [readTrimmed_single spells, if_pos fits, UInt32.ofNat_toNat]
  · intro bits typed around
    rw [shownPattern_literal_double] at around
    have spells := spellsPattern_hexPattern 16 bits.toNat
    have fits : bits.toNat ≤ maxWord64 := Nat.le_of_lt_succ bits.toNat_lt
    apply read_of_padded around (unpadded_of_spellsPattern spells)
    rw [readTrimmed_double spells, if_pos fits, UInt64.ofNat_toNat]
  · intro text n typed spells large around
    have beyond : ¬n ≤ maxWord32 := Nat.not_le.2 large
    have refused := readTrimmed_single spells
    rw [if_neg beyond] at refused
    -- Patterns of more than 32 bits are refused by either reader, whichever gets them.
    split_ifs at refused
    · exact refused_of_padded around (unpadded_of_spellsPattern spells) refused
    · exact refused_of_padded around (unpadded_of_spellsPattern spells) refused
  · intro text n typed spells large around
    have beyond : ¬n ≤ maxWord64 := Nat.not_le.2 large
    have refused := readTrimmed_double spells
    rw [if_neg beyond] at refused
    exact refused_of_padded around (unpadded_of_spellsPattern spells) refused

theorem read_number_exact_at_the_bounds :
    read .int "\t-2147483648\n" = .ok (.int (-2147483648)) ∧
    Refused .int " 2147483648" ∧
    read .single "0x7fa00001 " = .ok (.single 0x7fa00001) ∧
    read .double "\u20280x8000000000000000" = .ok (.double 0x8000000000000000) ∧
    Refused .single "0x100000000" ∧
    Refused .double "0x10000000000000000" := by
  obtain ⟨int, beyond_int, single, double, beyond_single, beyond_double⟩ := read_number_exact
  refine ⟨int _ _ ⟨['\t'], ['\n'], ?_⟩, beyond_int _ 2147483648 _ (spellsSigned_signedDecimal _)
    (.inr le_rfl) ⟨[' '], [], ?_⟩, single _ _ ⟨[], [' '], ?_⟩, double _ _ ⟨['\u2028'], [], ?_⟩,
    beyond_single _ (2 ^ 32) _ (spellsPattern_hexPattern 9 _) le_rfl ⟨[], [], ?_⟩,
    beyond_double _ (2 ^ 64) _ (spellsPattern_hexPattern 17 _) le_rfl ⟨[], [], ?_⟩⟩
  all_goals
    exact ⟨List.all_eq_true.1 (by decide), List.all_eq_true.1 (by decide), by decide +kernel⟩

end FormatConformance.Argument
