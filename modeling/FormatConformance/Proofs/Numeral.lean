import FormatConformance.Argument
import Mathlib.Data.List.Basic
import Mathlib.Data.List.Forall2
import Mathlib.Data.Nat.Digits.Defs
import Mathlib.Tactic.Ring

/-!
# Numerals read back

The digits of a number, read from left to right in their base, give the number again. Readers differ
in what they do with a digit that they cannot take, and agree on one that they can: a step of a
reader multiplies what it has by the base and adds the digit. `reads_digits` says of every such
reader that it gets from the digits to the number, so a particular reader has only its step to show.
For a bit pattern in hexadecimal this gives a text of fixed width that holds nothing but the pattern
(`length_paddedHex`, `hexBits?_hexPattern`).

In the other direction, `Spells` says without a reader which texts are digits and of which number,
and a reader of numerals accepts just these within its bounds, without a sign
(`readUnsigned_eq_ok_iff`) and with one (`readSigned_eq_ok_iff`). Where two texts have as many
digits, the order of the texts is that of the numbers (`lt_of_spells`).
-/

namespace FormatConformance.Numeral

variable {base n : Nat}

/-! ## Digits -/

theorem digits_of_lt (small : n < base) : digits base n = [digitChar n] := by
  rw [digits, dif_neg (by omega)]

theorem digits_of_le (two : 2 ≤ base) (large : base ≤ n) :
    digits base n = digits base (n / base) ++ [digitChar (n % base)] := by
  rw [digits, dif_pos ⟨two, large⟩]

/-- Numbers by their digits: a single digit, or a digit behind the digits of a smaller number. -/
theorem digits_induction {P : Nat → Prop} (two : 2 ≤ base) (single : ∀ d < base, P d)
    (more : ∀ n, base ≤ n → P (n / base) → P n) (n : Nat) : P n := by
  induction n using Nat.strong_induction_on with
  | _ n ih =>
    by_cases large : base ≤ n
    · exact more n large (ih _ (Nat.div_lt_self (by omega) two))
    · exact single n (by omega)

theorem exists_digit_of_mem (two : 2 ≤ base) {c : Char} (mem : c ∈ digits base n) :
    ∃ d < base, c = digitChar d := by
  induction n using digits_induction two with
  | single d small =>
    rw [digits_of_lt small, List.mem_singleton] at mem
    exact ⟨d, small, mem⟩
  | more n large ih =>
    rw [digits_of_le two large, List.mem_append, List.mem_singleton] at mem
    rcases mem with before | last
    · exact ih before
    · exact ⟨n % base, Nat.mod_lt _ (by omega), last⟩

/-- What is true of the digits of a base is true of all digits of a number. -/
theorem forall_mem_digits {P : Char → Prop} (two : 2 ≤ base) (each : ∀ d < base, P (digitChar d))
    (n : Nat) : ∀ c ∈ digits base n, P c := by
  intro c mem
  obtain ⟨d, small, rfl⟩ := exists_digit_of_mem two mem
  exact each d small

theorem isDigit_of_mem_decimal {c : Char} (mem : c ∈ decimal n) : c.isDigit = true := by
  have table : ∀ d < 10, (digitChar d).isDigit = true := by decide
  have each : ∀ c ∈ decimal n, c.isDigit = true := forall_mem_digits (by decide) table n
  exact each c mem

/-- The first digit of a positive number is not a zero. -/
theorem digits_of_pos (two : 2 ≤ base) (positive : 0 < n) :
    ∃ d rest, 0 < d ∧ d < base ∧ digits base n = digitChar d :: rest := by
  induction n using digits_induction two with
  | single d small => exact ⟨d, [], positive, small, digits_of_lt small⟩
  | more n large ih =>
    obtain ⟨d, rest, d_pos, d_lt, first⟩ := ih (Nat.div_pos large (by omega))
    rw [digits_of_le two large, first]
    exact ⟨d, rest ++ [digitChar (n % base)], d_pos, d_lt, rfl⟩

theorem length_digits_le (two : 2 ≤ base) {width : Nat} (some_width : 0 < width)
    (fits : n < base ^ width) : (digits base n).length ≤ width := by
  induction width generalizing n with
  | zero => omega
  | succ width ih =>
    by_cases large : base ≤ n
    · rw [digits_of_le two large, List.length_append, List.length_singleton,
        Nat.add_le_add_iff_right]
      have left : n / base < base ^ width := Nat.div_lt_of_lt_mul (by rwa [pow_succ'] at fits)
      have positive : 0 < n / base := Nat.div_pos large (by omega)
      -- The quotient is no zero, so there is a place left for its digits.
      refine ih (Nat.pos_of_ne_zero ?_) left
      rintro rfl
      simp at left
      omega
    · rw [digits_of_lt (by omega)]
      simp

/-! ## Texts of the core library

The digits of this library are those of the core library, so that a result can be stated with
`toString` and `Nat.toDigits`. -/

theorem digitChar_eq : ∀ d < 16, digitChar d = Nat.digitChar d := by decide

/-- The digits of a number are those that the library writes. -/
theorem digits_eq_toDigits (two : 2 ≤ base) (hexadecimal : base ≤ 16) (n : Nat) :
    digits base n = Nat.toDigits base n := by
  induction n using digits_induction two with
  | single d small =>
    rw [digits_of_lt small, Nat.toDigits_of_lt_base small, digitChar_eq d (by omega)]
  | more n large ih =>
    have last : n % base < base := Nat.mod_lt _ (by omega)
    have front : 0 < n / base := Nat.div_pos large (by omega)
    rw [digits_of_le two large, ih, digitChar_eq _ (by omega), ← Nat.toDigits_of_lt_base last,
      Nat.toDigits_append_toDigits (by omega) front last, Nat.div_add_mod]

theorem decimal_eq_repr (n : Nat) : decimal n = (toString n).toList := by
  rw [decimal, digits_eq_toDigits (by decide) (by decide)]
  show _ = (Nat.repr n).toList
  rw [Nat.repr, String.toList_ofList]

theorem signedDecimal_eq_toString (value : Int) :
    signedDecimal value = (toString value).toList := by
  cases value with
  | ofNat n => exact decimal_eq_repr n
  | negSucc n =>
    show '-' :: decimal (n + 1) = ("-" ++ Nat.repr (n + 1)).toList
    rw [String.toList_append, decimal_eq_repr]
    rfl

theorem paddedHex_eq_leftpad (width n : Nat) :
    paddedHex width n = (Nat.toDigits 16 n).leftpad width '0' := by
  rw [paddedHex, digits_eq_toDigits (by decide) (by decide)]
  rfl

/-! ## Readers -/

/-- A reader that takes digits one by one as long as it stays within a limit gets from the digits of
a number to the number. -/
theorem reads_digits {β : Type} (two : 2 ≤ base) {limit : Nat} {read : Nat → List Char → β}
    (step : ∀ v d rest, d < base → v * base + d ≤ limit →
      read v (digitChar d :: rest) = read (v * base + d) rest)
    {v : Nat} (fits : v * base ^ (digits base n).length + n ≤ limit) (rest : List Char) :
    read v (digits base n ++ rest) = read (v * base ^ (digits base n).length + n) rest := by
  induction n using digits_induction two generalizing rest with
  | single d small =>
    rw [digits_of_lt small] at fits ⊢
    rw [List.length_singleton, pow_one] at fits ⊢
    exact step v d rest small fits
  | more n large ih =>
    rw [digits_of_le two large] at fits ⊢
    set before := (digits base (n / base)).length
    -- The digits before the last one are read first, so the last one is added at the end.
    have value :
        v * base ^ (before + 1) + n = (v * base ^ before + n / base) * base + n % base := by
      have split : n = n / base * base + n % base := (Nat.div_add_mod' n base).symm
      rw [pow_succ]
      conv_lhs => rw [split]
      ring
    rw [List.length_append, List.length_singleton, value] at fits ⊢
    have earlier : v * base ^ before + n / base ≤ limit := by
      refine le_trans ?_ fits
      exact (Nat.le_mul_of_pos_right _ (by omega)).trans (Nat.le_add_right _ _)
    rw [List.append_assoc, List.singleton_append, ih earlier,
      step _ _ rest (Nat.mod_lt _ (by omega)) fits]

theorem digitValue?_digitChar {d : Nat} (hexadecimal : base ≤ 16) (small : d < base) :
    digitValue? base (digitChar d) = some d := by
  have table : ∀ d < 16, ∀ base ≤ 16, d < base → digitValue? base (digitChar d) = some d := by
    decide +kernel
  exact table d (by omega) base hexadecimal small

theorem readMagnitude_cons {d v bound : Nat} {beyond : Fault} (hexadecimal : base ≤ 16)
    (small : d < base) (fits : v * base + d ≤ bound) (rest : List Char) :
    readMagnitude base bound beyond v (digitChar d :: rest) =
      readMagnitude base bound beyond (v * base + d) rest := by
  rw [readMagnitude, digitValue?_digitChar hexadecimal small]
  exact if_pos fits

theorem readMagnitude_zeros {bound : Nat} {beyond : Fault} (two : 2 ≤ base)
    (hexadecimal : base ≤ 16) (count : Nat) (rest : List Char) :
    readMagnitude base bound beyond 0 (List.replicate count '0' ++ rest) =
      readMagnitude base bound beyond 0 rest := by
  induction count with
  | zero => rfl
  | succ count ih =>
    have zero : readMagnitude base bound beyond 0
        (digitChar 0 :: (List.replicate count '0' ++ rest)) = _ :=
      readMagnitude_cons hexadecimal (by omega) (by omega) _
    rw [Nat.zero_mul, ih] at zero
    exact zero

theorem readMagnitude_digits {bound : Nat} {beyond : Fault} (two : 2 ≤ base)
    (hexadecimal : base ≤ 16) (fits : n ≤ bound) :
    readMagnitude base bound beyond 0 (digits base n) = .ok n := by
  have step : ∀ v d rest, d < base → v * base + d ≤ bound →
      readMagnitude base bound beyond v (digitChar d :: rest) =
        readMagnitude base bound beyond (v * base + d) rest :=
    fun v d rest small within => readMagnitude_cons hexadecimal small within rest
  have read := reads_digits (n := n) (v := 0) two step (by simpa using fits) []
  rw [List.append_nil, Nat.zero_mul, Nat.zero_add] at read
  exact read

/-- A numeral that starts with no sign is read by its digits. -/
theorem readUnsigned_of_ne_plus {bound : Nat} {c : Char} (unsigned : c ≠ '+') (rest : List Char) :
    readUnsigned base bound (c :: rest) = readMagnitude base bound .tooLarge 0 (c :: rest) := by
  unfold readUnsigned
  split
  · contradiction
  · next same => exact absurd (List.cons.inj same).1 unsigned
  · next same =>
    rw [← same]
    rfl

/-! ## Bit patterns -/

theorem length_padLeft_digits (two : 2 ≤ base) {width : Nat} (some_width : 0 < width)
    (fits : n < base ^ width) : (padLeft width '0' (digits base n)).length = width := by
  have short : (digits base n).length ≤ width := length_digits_le two some_width fits
  rw [padLeft, List.length_append, List.length_replicate]
  omega

theorem length_paddedHex {width : Nat} (some_width : 0 < width) (fits : n < 16 ^ width) :
    (paddedHex width n).length = width :=
  length_padLeft_digits (by decide) some_width fits

theorem exists_digit_of_mem_paddedHex {width : Nat} {c : Char} (mem : c ∈ paddedHex width n) :
    ∃ d < 16, c = digitChar d := by
  rcases List.mem_append.1 mem with fill | digit
  · exact ⟨0, by decide, (List.mem_replicate.1 fill).2⟩
  · exact exists_digit_of_mem (by decide) digit

theorem forall_mem_paddedHex {P : Char → Prop} (each : ∀ d < 16, P (digitChar d))
    (width n : Nat) : ∀ c ∈ paddedHex width n, P c := by
  intro c mem
  obtain ⟨d, small, rfl⟩ := exists_digit_of_mem_paddedHex mem
  exact each d small

theorem digitChar_ne_plus : ∀ d < 16, digitChar d ≠ '+' := by decide

theorem readMagnitude_paddedHex {width bound : Nat} {beyond : Fault} (fits : n ≤ bound) :
    readMagnitude 16 bound beyond 0 (paddedHex width n) = .ok n := by
  rw [paddedHex, padLeft, readMagnitude_zeros (by decide) (by decide),
    readMagnitude_digits (by decide) (by decide) fits]

theorem paddedHex_injective (width : Nat) : Function.Injective (paddedHex width) := by
  intro a b same
  have read (n : Nat) {bound : Nat} (fits : n ≤ bound) :
      readMagnitude 16 bound .tooLarge 0 (paddedHex width n) = .ok n :=
    readMagnitude_paddedHex fits
  have left := read a (le_max_left a b)
  have right := read b (le_max_right a b)
  rw [same, right] at left
  exact (Except.ok.inj left).symm

theorem readUnsigned_of_digits {bound : Nat} {text : List Char} (nonempty : text ≠ [])
    (digits : ∀ c ∈ text, ∃ d < 16, c = digitChar d) :
    readUnsigned base bound text = readMagnitude base bound .tooLarge 0 text := by
  obtain ⟨c, rest, rfl⟩ := List.exists_cons_of_ne_nil nonempty
  obtain ⟨d, small, rfl⟩ := digits c List.mem_cons_self
  exact readUnsigned_of_ne_plus (digitChar_ne_plus d small) rest

theorem readUnsigned_paddedHex {width bound : Nat} (fits : n ≤ bound) :
    readUnsigned 16 bound (paddedHex width n) = .ok n := by
  have nonempty : paddedHex width n ≠ [] :=
    List.append_ne_nil_of_right_ne_nil _ (digits_ne_nil 16 n)
  rw [readUnsigned_of_digits nonempty fun _ => exists_digit_of_mem_paddedHex,
    readMagnitude_paddedHex fits]

theorem readUnsigned_decimal {bound : Nat} (fits : n ≤ bound) :
    readUnsigned 10 bound (decimal n) = .ok n := by
  have digits : ∀ c ∈ decimal n, ∃ d < 16, c = digitChar d :=
    forall_mem_digits (by decide) (fun d small => ⟨d, by omega, rfl⟩) n
  have nonempty : decimal n ≠ [] := digits_ne_nil 10 n
  rw [readUnsigned_of_digits nonempty digits]
  exact readMagnitude_digits (by decide) (by decide) fits

/-- A number of 16 bits by its four digits. -/
theorem paddedHex_four (fits : n < 16 ^ 4) :
    ∃ a < 16, ∃ b < 16, ∃ c < 16, ∃ d < 16,
      paddedHex 4 n = [digitChar a, digitChar b, digitChar c, digitChar d] ∧
        ((a * 16 + b) * 16 + c) * 16 + d = n := by
  have length : (paddedHex 4 n).length = 4 := length_paddedHex (by decide) fits
  obtain ⟨w, rest, text⟩ := List.exists_cons_of_length_eq_add_one length
  obtain ⟨x, y, z, rfl⟩ : ∃ x y z, rest = [x, y, z] :=
    List.length_eq_three.1 (by simpa [text] using length)
  have digit : ∀ q ∈ [w, x, y, z], ∃ v < 16, q = digitChar v := fun q mem =>
    exists_digit_of_mem_paddedHex (text ▸ mem)
  obtain ⟨a, ha, rfl⟩ := digit w (by simp)
  obtain ⟨b, hb, rfl⟩ := digit x (by simp)
  obtain ⟨c, hc, rfl⟩ := digit y (by simp)
  obtain ⟨d, hd, rfl⟩ := digit z (by simp)
  -- Reading the four digits one at a time gives the number back.
  have read : readMagnitude 16 (16 ^ 4) .tooLarge 0 (paddedHex 4 n) = .ok n :=
    readMagnitude_paddedHex fits.le
  rw [text, readMagnitude_cons (by decide) ha (by omega),
    readMagnitude_cons (by decide) hb (by omega), readMagnitude_cons (by decide) hc (by omega),
    readMagnitude_cons (by decide) hd (by omega)] at read
  refine ⟨a, ha, b, hb, c, hc, d, hd, text, ?_⟩
  have value := Except.ok.inj read
  omega

/-- A pattern of 64 bits is read back from its text. -/
theorem hexBits?_hexPattern {width : Nat} (fits : n ≤ maxWord64) :
    Argument.hexBits? (hexPattern width n) = some n := by
  show (readUnsigned 16 maxWord64 (paddedHex width n)).toOption = some n
  rw [readUnsigned_paddedHex fits]
  rfl

/-! ## Signed numerals -/

theorem readDigits_decimal {bound : Nat} {beyond : Fault} (fits : n ≤ bound) :
    readDigits 10 bound beyond (decimal n) = .ok n := by
  have read : readMagnitude 10 bound beyond 0 (decimal n) = .ok n :=
    readMagnitude_digits (by decide) (by decide) fits
  obtain ⟨c, rest, text⟩ : ∃ c rest, decimal n = c :: rest :=
    List.exists_cons_of_ne_nil (digits_ne_nil 10 n)
  rwa [text, readDigits, ← text]

theorem readSigned_signedDecimal {lower upper : Nat} {value : Int} (least : -lower ≤ value)
    (greatest : value ≤ upper) : readSigned lower upper (signedDecimal value) = .ok value := by
  cases value with
  | ofNat n =>
    have fits : n ≤ upper := Int.ofNat_le.1 greatest
    obtain ⟨c, rest, text⟩ : ∃ c rest, decimal n = c :: rest :=
      List.exists_cons_of_ne_nil (digits_ne_nil 10 n)
    -- A digit comes first, so none of the signs is looked for.
    have unsigned : ∀ d < 10, digitChar d ≠ '+' ∧ digitChar d ≠ '-' := by decide
    have first : c ∈ decimal n := text ▸ List.mem_cons_self
    obtain ⟨d, small, rfl⟩ := exists_digit_of_mem (by decide) first
    rw [signedDecimal, text, readSigned, ← text, readDigits_decimal fits]
    · rfl
    · exact (unsigned d small).1
    · exact (unsigned d small).2
  | negSucc n =>
    have fits : n + 1 ≤ lower := by omega
    rw [signedDecimal, readSigned, readDigits_decimal fits]
    rfl

theorem signedDecimal_injective : Function.Injective signedDecimal := by
  intro a b same
  have read (v : Int) {bound : Nat} (fits : v.natAbs ≤ bound) :
      readSigned bound bound (signedDecimal v) = .ok v :=
    readSigned_signedDecimal (by omega) (by omega)
  have left := read a (le_max_left a.natAbs b.natAbs)
  have right := read b (le_max_right a.natAbs b.natAbs)
  rw [same, right] at left
  exact (Except.ok.inj left).symm

/-! ## What a reader accepts

Here the readers are met from the other side: which texts they take at all, and for which number. A
digit may stand in either case, and zeros may stand in front. -/

/-- A character that stands for a digit: letters count in either case. -/
def IsDigit (base : Nat) (c : Char) (d : Nat) : Prop :=
  d < base ∧ (c = digitChar d ∨ c = (digitChar d).toUpper)

theorem isDigit_of_digitValue? {c : Char} {d : Nat} (value : digitValue? base c = some d) :
    IsDigit base c d := by
  obtain ⟨read, below⟩ : _ ∧ _ := Option.filter_eq_some_iff.1 value
  refine ⟨by simpa using below, ?_⟩
  have self : Char.ofNat c.toNat = c := Char.ofNat_toNat c
  have bound {least greatest : Char} (between : least ≤ c ∧ c ≤ greatest) :
      least.toNat ≤ c.toNat ∧ c.toNat ≤ greatest.toNat :=
    ⟨UInt32.le_iff_toNat_le.1 between.1, UInt32.le_iff_toNat_le.1 between.2⟩
  have upper : ∀ d < 16, 10 ≤ d → (digitChar d).toUpper = Char.ofNat (55 + d) := by decide
  split_ifs at read with decimal lower capital
  · obtain ⟨first, last⟩ : 48 ≤ c.toNat ∧ c.toNat ≤ 57 := bound decimal
    obtain rfl := Option.some.inj read
    left
    rw [digitChar, if_pos (by omega), Nat.add_sub_cancel' first, self]
  · obtain ⟨first, -⟩ : 97 ≤ c.toNat ∧ c.toNat ≤ 102 := bound lower
    obtain rfl := Option.some.inj read
    left
    rw [digitChar, if_neg (by omega), Nat.add_sub_cancel' (by omega), self]
  · -- A capital is the digit in upper case, and so only its upper case is equal.
    obtain ⟨first, last⟩ : 65 ≤ c.toNat ∧ c.toNat ≤ 70 := bound capital
    obtain rfl := Option.some.inj read
    right
    rw [upper _ (by omega) (by omega), Nat.add_sub_cancel' (by omega), self]

theorem digitValue?_eq_some_iff (hexadecimal : base ≤ 16) {c : Char} {d : Nat} :
    digitValue? base c = some d ↔ IsDigit base c d := by
  refine ⟨isDigit_of_digitValue?, ?_⟩
  rintro ⟨below, rfl | rfl⟩
  · exact digitValue?_digitChar hexadecimal below
  · have table : ∀ d < 16, ∀ base ≤ 16, d < base →
        digitValue? base (digitChar d).toUpper = some d := by
      decide +kernel
    exact table d (by omega) base hexadecimal below

/-- A text of digits and the number that it spells, the first digit counting most. -/
def Spells (base : Nat) (text : List Char) (n : Nat) : Prop :=
  ∃ values, List.Forall₂ (IsDigit base) text values ∧ Nat.ofDigits base values.reverse = n

theorem spells_nil_iff : Spells base [] n ↔ n = 0 := by
  simp [Spells, eq_comm]

theorem spells_cons_iff {c : Char} {rest : List Char} :
    Spells base (c :: rest) n ↔
      ∃ d m, IsDigit base c d ∧ Spells base rest m ∧ n = d * base ^ rest.length + m := by
  -- The first digit stands above all others, as often as there are others.
  have first_counts {d : Nat} {values : List Nat}
      (others : List.Forall₂ (IsDigit base) rest values) :
      Nat.ofDigits base (d :: values).reverse =
        d * base ^ rest.length + Nat.ofDigits base values.reverse := by
    rw [List.reverse_cons, Nat.ofDigits_append, Nat.ofDigits_singleton, List.length_reverse,
      others.length_eq, Nat.add_comm, Nat.mul_comm]
  constructor
  · rintro ⟨values, each, rfl⟩
    obtain ⟨d, values, first, others, rfl⟩ := List.forall₂_cons_left_iff.1 each
    exact ⟨d, _, first, ⟨values, others, rfl⟩, first_counts others⟩
  · rintro ⟨d, m, first, ⟨values, others, rfl⟩, rfl⟩
    exact ⟨d :: values, .cons first others, first_counts others⟩

theorem Spells.lt {text : List Char} (spells : Spells base text n) (two : 2 ≤ base) :
    n < base ^ text.length := by
  obtain ⟨values, each, rfl⟩ := spells
  have small : ∀ v ∈ values, v < base := by
    induction each with
    | nil => simp
    | cons digit _ ih => exact List.forall_mem_cons.2 ⟨digit.1, ih⟩
  rw [each.length_eq, ← List.length_reverse]
  exact Nat.ofDigits_lt_base_pow_length two fun v mem => small v (List.mem_reverse.1 mem)

/-- Digits behind a number that has been read already are accepted as long as they spell a number
within the bound. -/
theorem readMagnitude_eq_ok_iff {bound v : Nat} {beyond : Fault} {text : List Char}
    (positive : 0 < base) (hexadecimal : base ≤ 16) (within : v ≤ bound) :
    readMagnitude base bound beyond v text = .ok n ↔
      n ≤ bound ∧ ∃ m, Spells base text m ∧ n = v * base ^ text.length + m := by
  induction text generalizing v with
  | nil =>
    simp only [readMagnitude, spells_nil_iff, Except.ok.injEq, exists_eq_left, List.length_nil,
      pow_zero, mul_one, add_zero]
    constructor
    · rintro rfl
      exact ⟨within, rfl⟩
    · rintro ⟨-, rfl⟩
      rfl
  | cons c rest ih =>
    rw [readMagnitude]
    cases digit : digitValue? base c with
    | none =>
      have no_digit (d : Nat) : ¬IsDigit base c d := fun is_digit => by
        simp [(digitValue?_eq_some_iff hexadecimal).2 is_digit] at digit
      simp [spells_cons_iff, no_digit]
    | some d =>
      have unique {e : Nat} (is_digit : IsDigit base c e) : e = d :=
        Option.some.inj (((digitValue?_eq_some_iff hexadecimal).2 is_digit).symm.trans digit)
      have is_digit : IsDigit base c d := isDigit_of_digitValue? digit
      -- What was read so far moves up by one place for each digit that is still to come.
      have shift (m : Nat) : v * base ^ (c :: rest).length + (d * base ^ rest.length + m) =
          (v * base + d) * base ^ rest.length + m := by
        rw [List.length_cons]
        ring
      have spelled : (∃ m, Spells base (c :: rest) m ∧ n = v * base ^ (c :: rest).length + m) ↔
          ∃ m, Spells base rest m ∧ n = (v * base + d) * base ^ rest.length + m := by
        constructor
        · rintro ⟨_, spells, rfl⟩
          obtain ⟨e, m, first, others, rfl⟩ := spells_cons_iff.1 spells
          obtain rfl := unique first
          exact ⟨m, others, shift m⟩
        · rintro ⟨m, others, rfl⟩
          exact ⟨_, spells_cons_iff.2 ⟨d, m, is_digit, others, rfl⟩, (shift m).symm⟩
      simp only [spelled]
      split_ifs with fits
      · exact ih fits
      · constructor
        · intro failed
          cases failed
        · rintro ⟨small, m, -, rfl⟩
          -- The digits that follow only make the number larger.
          have grows : v * base + d ≤ (v * base + d) * base ^ rest.length :=
            Nat.le_mul_of_pos_right _ (pow_pos positive _)
          omega

theorem readDigits_eq_ok_iff {bound : Nat} {beyond : Fault} {digits : List Char}
    (positive : 0 < base) (hexadecimal : base ≤ 16) :
    readDigits base bound beyond digits = .ok n ↔
      n ≤ bound ∧ digits ≠ [] ∧ Spells base digits n := by
  cases digits with
  | nil => simp [readDigits]
  | cons c rest =>
    rw [readDigits, readMagnitude_eq_ok_iff positive hexadecimal (Nat.zero_le bound)]
    simp

/-- A text of digits, behind a plus sign or not, and the number that it spells. -/
def SpellsUnsigned (base : Nat) (text : List Char) (n : Nat) : Prop :=
  ∃ digits, (text = digits ∨ text = '+' :: digits) ∧ digits ≠ [] ∧ Spells base digits n

/-- A reader of unsigned numerals accepts just the texts that spell a number within its bound. -/
theorem readUnsigned_eq_ok_iff {bound : Nat} {text : List Char} (positive : 0 < base)
    (hexadecimal : base ≤ 16) :
    readUnsigned base bound text = .ok n ↔ n ≤ bound ∧ SpellsUnsigned base text n := by
  cases text with
  | nil => simp [readUnsigned, SpellsUnsigned]
  | cons c rest =>
    by_cases signed : c = '+'
    · subst signed
      -- The sign is no digit, so a text that begins with it is read without it.
      have no_digits : ¬Spells base ('+' :: rest) n := by
        intro spells
        obtain ⟨d, m, first, -⟩ := spells_cons_iff.1 spells
        have value : digitValue? base '+' = some d := (digitValue?_eq_some_iff hexadecimal).2 first
        have none : digitValue? base '+' = none := rfl
        simp [none] at value
      rw [readUnsigned, readDigits_eq_ok_iff positive hexadecimal]
      constructor
      · rintro ⟨small, nonempty, spells⟩
        exact ⟨small, rest, .inr rfl, nonempty, spells⟩
      · rintro ⟨small, digits, rfl | same, nonempty, spells⟩
        · exact absurd spells no_digits
        · obtain rfl : rest = digits := (List.cons.inj same).2
          exact ⟨small, nonempty, spells⟩
    · have unsigned : readUnsigned base bound (c :: rest) =
          readDigits base bound .tooLarge (c :: rest) := by
        rw [readUnsigned_of_ne_plus signed, readDigits]
      rw [unsigned, readDigits_eq_ok_iff positive hexadecimal]
      constructor
      · rintro ⟨small, nonempty, spells⟩
        exact ⟨small, c :: rest, .inl rfl, nonempty, spells⟩
      · rintro ⟨small, digits, rfl | same, nonempty, spells⟩
        · exact ⟨small, nonempty, spells⟩
        · exact absurd (List.cons.inj same).1 signed

/-- A text of digits spells one number at most. -/
theorem SpellsUnsigned.unique {text : List Char} {m : Nat} (positive : 0 < base)
    (hexadecimal : base ≤ 16) (first : SpellsUnsigned base text m)
    (second : SpellsUnsigned base text n) : m = n := by
  have read {u : Nat} (spells : SpellsUnsigned base text u) {bound : Nat} (fits : u ≤ bound) :
      readUnsigned base bound text = .ok u :=
    (readUnsigned_eq_ok_iff positive hexadecimal).2 ⟨fits, spells⟩
  have left := read first (le_max_left m n)
  exact Except.ok.inj (left.symm.trans (read second (le_max_right m n)))

/-- A text of decimal digits, behind a sign or not, and the number that it spells. -/
def SpellsSigned (text : List Char) (value : Int) : Prop :=
  (∃ n, SpellsUnsigned 10 text n ∧ value = n) ∨
    ∃ digits n, text = '-' :: digits ∧ digits ≠ [] ∧ Spells 10 digits n ∧ value = -n

theorem not_spellsUnsigned_minus (rest : List Char) : ¬SpellsUnsigned 10 ('-' :: rest) n := by
  rintro ⟨digits, rfl | same, -, spells⟩
  · obtain ⟨d, m, first, -⟩ := spells_cons_iff.1 spells
    have value : digitValue? 10 '-' = some d := (digitValue?_eq_some_iff (by decide)).2 first
    have none : digitValue? 10 '-' = none := rfl
    simp [none] at value
  · exact absurd (List.cons.inj same).1 (by decide)

/-- Without a minus sign a signed numeral is read as an unsigned one. -/
theorem readSigned_of_ne_minus {lower upper : Nat} {text : List Char}
    (unsigned : ∀ rest, text ≠ '-' :: rest) :
    readSigned lower upper text = (readUnsigned 10 upper text).map Int.ofNat := by
  match text with
  | [] => rfl
  | c :: rest =>
    -- Both readers take the same sign off, and nothing else.
    by_cases plus : c = '+'
    · rw [plus]
      rfl
    · have minus : c ≠ '-' := fun same => unsigned rest (by rw [same])
      rw [readSigned, readUnsigned]
      · exact plus
      · exact plus
      · exact minus

/-- A reader of signed numerals accepts just the texts that spell a number of its range. -/
theorem readSigned_eq_ok_iff {lower upper : Nat} {text : List Char} {value : Int} :
    readSigned lower upper text = .ok value ↔
      (-lower ≤ value ∧ value ≤ upper) ∧ SpellsSigned text value := by
  by_cases negative : ∃ rest, text = '-' :: rest
  · obtain ⟨rest, rfl⟩ := negative
    have read : readSigned lower upper ('-' :: rest) = .ok value ↔
        ∃ m, readDigits 10 lower .tooSmall rest = .ok m ∧ -(Int.ofNat m) = value := by
      rw [readSigned]
      cases readDigits 10 lower .tooSmall rest <;> simp [Except.map]
    rw [read]
    simp only [readDigits_eq_ok_iff (by decide : 0 < 10) (by decide : 10 ≤ 16)]
    constructor
    · rintro ⟨m, ⟨small, nonempty, spells⟩, rfl⟩
      refine ⟨?_, .inr ⟨rest, m, rfl, nonempty, spells, rfl⟩⟩
      show -(lower : Int) ≤ -(m : Int) ∧ -(m : Int) ≤ upper
      omega
    · rintro ⟨bounds, ⟨m, spells, -⟩ | ⟨digits, m, same, nonempty, spells, rfl⟩⟩
      · exact absurd spells (not_spellsUnsigned_minus rest)
      · obtain rfl : rest = digits := (List.cons.inj same).2
        exact ⟨m, ⟨by omega, nonempty, spells⟩, rfl⟩
  · have unsigned : ∀ rest, text ≠ '-' :: rest := fun rest same => negative ⟨rest, same⟩
    have read : readSigned lower upper text = .ok value ↔
        ∃ m, readUnsigned 10 upper text = .ok m ∧ Int.ofNat m = value := by
      rw [readSigned_of_ne_minus unsigned]
      cases readUnsigned 10 upper text <;> simp [Except.map]
    rw [read]
    simp only [readUnsigned_eq_ok_iff (by decide : 0 < 10) (by decide : 10 ≤ 16)]
    constructor
    · rintro ⟨m, ⟨small, spells⟩, rfl⟩
      refine ⟨?_, .inl ⟨m, spells, rfl⟩⟩
      show -(lower : Int) ≤ (m : Int) ∧ (m : Int) ≤ upper
      omega
    · rintro ⟨bounds, ⟨m, spells, rfl⟩ | ⟨digits, m, same, -⟩⟩
      · exact ⟨m, ⟨by omega, spells⟩, rfl⟩
      · exact absurd same (unsigned digits)

/-- A text with a sign spells one number at most. -/
theorem SpellsSigned.unique {text : List Char} {v w : Int} (first : SpellsSigned text v)
    (second : SpellsSigned text w) : v = w := by
  have read {u : Int} (spells : SpellsSigned text u) {bound : Nat} (fits : u.natAbs ≤ bound) :
      readSigned bound bound text = .ok u :=
    readSigned_eq_ok_iff.2 ⟨by omega, spells⟩
  have left := read first (le_max_left v.natAbs w.natAbs)
  exact Except.ok.inj (left.symm.trans (read second (le_max_right v.natAbs w.natAbs)))

/-! ## Fixed widths -/

theorem length_paddedDecimal {width : Nat} (some_width : 0 < width) (fits : n < 10 ^ width) :
    (paddedDecimal width n).length = width :=
  length_padLeft_digits (by decide) some_width fits

theorem isDigit_of_mem_paddedDecimal {width : Nat} {c : Char} (mem : c ∈ paddedDecimal width n) :
    c.isDigit = true := by
  rcases List.mem_append.1 mem with fill | digit
  · rw [(List.mem_replicate.1 fill).2]
    decide
  · exact isDigit_of_mem_decimal digit

theorem readDigits_paddedDecimal {width bound : Nat} {beyond : Fault} (fits : n ≤ bound) :
    readDigits 10 bound beyond (paddedDecimal width n) = .ok n := by
  have nonempty : paddedDecimal width n ≠ [] :=
    List.append_ne_nil_of_right_ne_nil _ (digits_ne_nil 10 n)
  obtain ⟨c, rest, text⟩ := List.exists_cons_of_ne_nil nonempty
  rw [text, readDigits, ← text, paddedDecimal, padLeft, readMagnitude_zeros (by decide) (by decide),
    decimal, readMagnitude_digits (by decide) (by decide) fits]

theorem paddedDecimal_injective (width : Nat) : Function.Injective (paddedDecimal width) := by
  intro a b same
  have left : readDigits 10 (max a b) .tooLarge (paddedDecimal width a) = .ok a :=
    readDigits_paddedDecimal (le_max_left a b)
  have right : readDigits 10 (max a b) .tooLarge (paddedDecimal width b) = .ok b :=
    readDigits_paddedDecimal (le_max_right a b)
  rw [same, right] at left
  exact (Except.ok.inj left).symm

theorem spells_paddedDecimal (width n : Nat) : Spells 10 (paddedDecimal width n) n := by
  have read : readDigits 10 n .tooLarge (paddedDecimal width n) = .ok n :=
    readDigits_paddedDecimal le_rfl
  exact ((readDigits_eq_ok_iff (by decide) (by decide)).1 read).2.2

theorem spells_paddedHex (width n : Nat) : Spells 16 (paddedHex width n) n := by
  have read : readMagnitude 16 n .tooLarge 0 (paddedHex width n) = .ok n :=
    readMagnitude_paddedHex le_rfl
  obtain ⟨-, m, spells, same⟩ :=
    (readMagnitude_eq_ok_iff (by decide) (by decide) (Nat.zero_le n)).1 read
  rw [Nat.zero_mul, Nat.zero_add] at same
  exact same ▸ spells

/-- Among the texts of one length only one spells a number without capital letters. -/
theorem eq_of_spells {first second : List Char} (spells : Spells 16 first n)
    (spells' : Spells 16 second n) (same_length : first.length = second.length)
    (small : ∀ c ∈ first, c.isUpper = false) (small' : ∀ c ∈ second, c.isUpper = false) :
    first = second := by
  -- Of the two forms of a digit only the lower one is left.
  have lower {c : Char} {d : Nat} (digit : IsDigit 16 c d) (small : c.isUpper = false) :
      c = digitChar d := by
    have table : ∀ d < 16, (digitChar d).toUpper.isUpper = false →
        (digitChar d).toUpper = digitChar d := by decide
    rcases digit.2 with same | rfl
    · exact same
    · exact table d digit.1 small
  induction first generalizing second n with
  | nil => exact (List.length_eq_zero_iff.1 same_length.symm).symm
  | cons c rest ih =>
    obtain ⟨c', rest', rfl⟩ := List.exists_cons_of_length_eq_add_one same_length.symm
    have same_rest : rest.length = rest'.length := Nat.succ.inj same_length
    obtain ⟨d, x, digit, others, total⟩ := spells_cons_iff.1 spells
    obtain ⟨d', y, digit', others', total'⟩ := spells_cons_iff.1 spells'
    obtain ⟨small_c, small_rest⟩ := List.forall_mem_cons.1 small
    obtain ⟨small_c', small_rest'⟩ := List.forall_mem_cons.1 small'
    -- The first digit is the quotient by the value of its place, and the others the remainder.
    have below : x < 16 ^ rest.length := others.lt (by decide)
    have below' : y < 16 ^ rest.length := same_rest ▸ others'.lt (by decide)
    have place : 0 < 16 ^ rest.length := Nat.pow_pos (by decide)
    have split : n / 16 ^ rest.length = d ∧ n % 16 ^ rest.length = x :=
      (Nat.div_mod_unique place).2 ⟨by rw [total, Nat.add_comm, Nat.mul_comm], below⟩
    have split' : n / 16 ^ rest.length = d' ∧ n % 16 ^ rest.length = y :=
      (Nat.div_mod_unique place).2 ⟨by rw [total', ← same_rest, Nat.add_comm, Nat.mul_comm], below'⟩
    obtain rfl : d = d' := split.1.symm.trans split'.1
    obtain rfl : x = y := split.2.symm.trans split'.2
    rw [lower digit small_c, lower digit' small_c',
      ih others others' same_rest small_rest small_rest']

theorem isUpper_of_mem_paddedHex {width : Nat} {c : Char} (mem : c ∈ paddedHex width n) :
    c.isUpper = false := by
  have table : ∀ d < 16, (digitChar d).isUpper = false := by decide
  obtain ⟨d, below, rfl⟩ := exists_digit_of_mem_paddedHex mem
  exact table d below

/-- Texts of as many decimal digits stand in the order of the numbers that they spell. -/
theorem lt_of_spells {first second : List Char} {m : Nat} (spells : Spells 10 first n)
    (spells' : Spells 10 second m) (same_length : first.length = second.length) (less : n < m) :
    first < second := by
  -- The characters of decimal digits are in the order of their values.
  have digit_lt {c c' : Char} {d d' : Nat} (is_digit : IsDigit 10 c d)
      (is_digit' : IsDigit 10 c' d') : (d < d' → c < c') ∧ (d = d' → c = c') := by
    have table : ∀ d < 10, (digitChar d).toUpper = digitChar d ∧
        ∀ d' < 10, d < d' → digitChar d < digitChar d' := by decide
    obtain rfl : c = digitChar d :=
      is_digit.2.elim id fun upper => upper.trans (table d is_digit.1).1
    obtain rfl : c' = digitChar d' :=
      is_digit'.2.elim id fun upper => upper.trans (table d' is_digit'.1).1
    exact ⟨(table d is_digit.1).2 d' is_digit'.1, congrArg digitChar⟩
  induction first generalizing second n m with
  | nil =>
    obtain rfl : second = [] := List.length_eq_zero_iff.1 same_length.symm
    rw [spells_nil_iff] at spells spells'
    omega
  | cons c rest ih =>
    obtain ⟨c', rest', rfl⟩ := List.exists_cons_of_length_eq_add_one same_length.symm
    have same_rest : rest.length = rest'.length := Nat.succ.inj same_length
    obtain ⟨d, x, digit, others, rfl⟩ := spells_cons_iff.1 spells
    obtain ⟨d', y, digit', others', rfl⟩ := spells_cons_iff.1 spells'
    obtain ⟨less_digit, same_digit⟩ := digit_lt digit digit'
    rw [List.cons_lt_cons_iff]
    have below : x < 10 ^ rest.length := others.lt (by decide)
    rcases lt_trichotomy d d' with smaller | same | larger
    · exact .inl (less_digit smaller)
    · refine .inr ⟨same_digit same, ih others others' same_rest ?_⟩
      rw [same, same_rest] at less
      exact Nat.lt_of_add_lt_add_left less
    · -- A greater first digit counts for more than all the digits behind it.
      have below' : y < 10 ^ rest'.length := others'.lt (by decide)
      have more : (d' + 1) * 10 ^ rest'.length ≤ d * 10 ^ rest'.length :=
        Nat.mul_le_mul_right _ larger
      rw [same_rest] at less
      rw [Nat.add_mul] at more
      omega

theorem paddedDecimal_lt_paddedDecimal {width m : Nat} (some_width : 0 < width) (less : n < m)
    (fits : m < 10 ^ width) : paddedDecimal width n < paddedDecimal width m := by
  refine lt_of_spells (spells_paddedDecimal width n) (spells_paddedDecimal width m) ?_ less
  rw [length_paddedDecimal some_width (less.trans fits), length_paddedDecimal some_width fits]

end FormatConformance.Numeral
