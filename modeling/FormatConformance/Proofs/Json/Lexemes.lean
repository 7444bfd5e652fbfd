import FormatConformance.Proofs.Json.Page
import FormatConformance.Proofs.Text.Utf8
import Mathlib.Data.List.TakeWhile

/-!
# The lexemes of JSON as texts

`Lexeme` says which texts a lexeme can have, without a scanner: a string is any sequence of plain
characters, letters behind a backslash and code units in hexadecimal, and a numeral has a whole part
without leading zeros and may have a fraction and an exponent. The scanner takes just these texts
off the front of what it is given (`lexeme_of_scan`), and takes a lexeme whole when nothing follows
that would continue a numeral (`Lexeme.cutsInto`).

What a string stands for is said by `Units`: each character stands there itself or as the one or two
units of its UTF-16 form, so half a surrogate pair stands for nothing (`spell?_eq_some_iff`).
-/

namespace FormatConformance.Json.Token

open FormatConformance.Numeral (digitRun)
open FormatConformance.Text (isValidChar_iff toNat_ofNat)

/-! ## Strings -/

/-- The texts that a part of a string can have. -/
inductive PartText : Part → List Char → Prop
  | plain {c : Char} (printable : Printable c) (quote : c ≠ '"') (backslash : c ≠ '\\') :
    PartText (.char c) [c]
  | letter {l c : Char} (named : shortEscape? l = some c) : PartText (.char c) ['\\', l]
  | code {a b c d : Char} {unit : Nat} (value : Numeral.Spells 16 [a, b, c, d] unit) :
    PartText (.code unit) ['\\', 'u', a, b, c, d]

/-- The texts that the parts of a string can have together. -/
inductive Inside : List Part → List Char → Prop
  | nil : Inside [] []
  | cons {part : Part} {parts : List Part} {piece text : List Char} :
    PartText part piece → Inside parts text → Inside (part :: parts) (piece ++ text)

theorem codeUnit?_eq_some_iff {a b c d : Char} {unit : Nat} :
    codeUnit? a b c d = some unit ↔ Numeral.Spells 16 [a, b, c, d] unit := by
  have digit (x : Char) (v : Nat) : hexValue? x = some v ↔ Numeral.IsDigit 16 x v :=
    Numeral.digitValue?_eq_some_iff le_rfl
  simp only [codeUnit?, Option.bind_eq_bind, Option.bind_eq_some_iff, digit, Option.pure_def,
    Option.some.injEq, Numeral.spells_cons_iff, Numeral.spells_nil_iff, List.length_cons,
    List.length_nil]
  constructor
  · rintro ⟨p, hp, q, hq, r, hr, s, hs, rfl⟩
    exact ⟨p, _, hp, ⟨q, _, hq, ⟨r, _, hr, ⟨s, 0, hs, rfl, rfl⟩, rfl⟩, rfl⟩, by ring⟩
  · rintro ⟨p, _, hp, ⟨q, _, hq, ⟨r, _, hr, ⟨s, _, hs, rfl, rfl⟩, rfl⟩, rfl⟩, rfl⟩
    exact ⟨p, hp, q, hq, r, hr, s, hs, by ring⟩

theorem scanString_partText {part : Part} {piece : List Char} (written : PartText part piece)
    (rest : List Char) : scanString (piece ++ rest) = (scanString rest).map part.before := by
  cases written with
  | @plain c printable quote backslash =>
    have allowed : ¬(c = '\\' ∨ c.toNat < 0x20) :=
      not_or.2 ⟨backslash, Nat.not_lt_of_le printable⟩
    rw [List.singleton_append, scanString, if_neg allowed]
    · exact quote
    · exact fun _ _ _ _ _ same => absurd same backslash
    · exact fun _ _ same => absurd same backslash
  | @letter l c named =>
    have other : l ≠ 'u' := by
      rintro rfl
      simp [shortEscape?] at named
    show scanString ('\\' :: l :: rest) = _
    rw [scanString, named]
    exact fun _ _ _ _ _ same => absurd same other
  | @code a b c d unit value =>
    show scanString ('\\' :: 'u' :: a :: b :: c :: d :: rest) = _
    rw [scanString, codeUnit?_eq_some_iff.2 value]

/-- The inside of a string is scanned up to the first quote that is not escaped. -/
theorem scanString_eq_some_iff {text rest : List Char} {parts : List Part} :
    scanString text = some (parts, rest) ↔
      ∃ body, Inside parts body ∧ text = body ++ '"' :: rest := by
  constructor
  · intro scanned
    fun_induction scanString text generalizing parts rest with
    | case1 => simp at scanned
    | case2 =>
      simp only [Option.some.injEq, Prod.mk.injEq] at scanned
      obtain ⟨rfl, rfl⟩ := scanned
      exact ⟨[], .nil, rfl⟩
    | case3 => simp at scanned
    | case4 a b c d r unit value ih =>
      obtain ⟨⟨later, after⟩, inner, same⟩ := Option.map_eq_some_iff.1 scanned
      cases same
      obtain ⟨body, inside, rfl⟩ := ih inner
      exact ⟨_, .cons (.code (codeUnit?_eq_some_iff.1 value)) inside, rfl⟩
    | case5 => simp at scanned
    | case6 letter r _ c named ih =>
      obtain ⟨⟨later, after⟩, inner, same⟩ := Option.map_eq_some_iff.1 scanned
      cases same
      obtain ⟨body, inside, rfl⟩ := ih inner
      exact ⟨_, .cons (.letter named) inside, rfl⟩
    | case7 => simp at scanned
    | case8 c r quote _ _ allowed ih =>
      obtain ⟨⟨later, after⟩, inner, same⟩ := Option.map_eq_some_iff.1 scanned
      cases same
      obtain ⟨body, inside, rfl⟩ := ih inner
      obtain ⟨backslash, printable⟩ := not_or.1 allowed
      exact ⟨_, .cons (.plain (Nat.le_of_not_lt printable) quote backslash) inside, rfl⟩
  · rintro ⟨body, inside, rfl⟩
    induction inside with
    | nil => rw [List.nil_append, scanString]
    | cons written _ ih =>
      rw [List.append_assoc, scanString_partText written, ih]
      rfl

/-- The parts that stand for some characters: a character itself, or the units of its UTF-16
form. -/
inductive Units : List Part → List Char → Prop
  | nil : Units [] []
  | char (c : Char) {parts : List Part} {text : List Char} :
    Units parts text → Units (.char c :: parts) (c :: text)
  | basic (c : Char) (within : c.toNat < 0x10000) {parts : List Part} {text : List Char} :
    Units parts text → Units (.code c.toNat :: parts) (c :: text)
  | pair (c : Char) (beyond : 0x10000 ≤ c.toNat) {parts : List Part} {text : List Char} :
    Units parts text →
      Units (.code (0xd800 + (c.toNat - 0x10000) / 0x400) ::
        .code (0xdc00 + (c.toNat - 0x10000) % 0x400) :: parts) (c :: text)

theorem isHighSurrogate_iff {unit : Nat} :
    isHighSurrogate unit ↔ 0xd800 ≤ unit ∧ unit ≤ 0xdbff := by
  simp [isHighSurrogate]

theorem isLowSurrogate_iff {unit : Nat} :
    isLowSurrogate unit ↔ 0xdc00 ≤ unit ∧ unit ≤ 0xdfff := by
  simp [isLowSurrogate]

/-- A unit that is no half of a pair stands for the character with this number. -/
theorem spell?_single {unit : Nat} (high : ¬isHighSurrogate unit) (low : ¬isLowSurrogate unit)
    (parts : List Part) :
    spell? (.code unit :: parts) = (spell? parts).map (Char.ofNat unit :: ·) := by
  cases parts with
  | nil => simp [spell?, high, low]
  | cons part parts => cases part <;> simp [spell?, high, low]

theorem Units.single {unit : Nat} (within : unit < 0x10000) (high : ¬isHighSurrogate unit)
    (low : ¬isLowSurrogate unit) {parts : List Part} {text : List Char}
    (behind : Units parts text) : Units (.code unit :: parts) (Char.ofNat unit :: text) := by
  rw [isHighSurrogate_iff] at high
  rw [isLowSurrogate_iff] at low
  have value : (Char.ofNat unit).toNat = unit := toNat_ofNat (isValidChar_iff.2 (by omega))
  have basic := Units.basic (Char.ofNat unit) (by omega) behind
  rwa [value] at basic

theorem Units.surrogates {high low : Nat} (is_high : isHighSurrogate high)
    (is_low : isLowSurrogate low) {parts : List Part} {text : List Char}
    (behind : Units parts text) :
    Units (.code high :: .code low :: parts)
      (Char.ofNat (0x10000 + (high - 0xd800) * 0x400 + (low - 0xdc00)) :: text) := by
  rw [isHighSurrogate_iff] at is_high
  rw [isLowSurrogate_iff] at is_low
  set n := 0x10000 + (high - 0xd800) * 0x400 + (low - 0xdc00) with sum
  have value : (Char.ofNat n).toNat = n := toNat_ofNat (isValidChar_iff.2 (by omega))
  -- The character beyond the first plane is the one that has this pair of units.
  have pair := Units.pair (Char.ofNat n) (by omega) behind
  rw [value] at pair
  convert pair using 4 <;> omega

/-- The parts of a string, whose code units have four digits, spell just the characters that they
stand for. -/
theorem spell?_eq_some_iff {parts : List Part} {text : List Char}
    (fits : ∀ unit, .code unit ∈ parts → unit < 0x10000) :
    spell? parts = some text ↔ Units parts text := by
  constructor
  · intro spelled
    fun_induction spell? parts generalizing text with
    | case1 =>
      cases spelled
      exact .nil
    | case2 c rest ih =>
      obtain ⟨later, others, rfl⟩ := Option.map_eq_some_iff.1 spelled
      exact .char c (ih (fun unit mem => fits unit (.tail _ mem)) others)
    | case3 high low rest is_high is_low ih =>
      obtain ⟨later, others, rfl⟩ := Option.map_eq_some_iff.1 spelled
      exact .surrogates is_high is_low
        (ih (fun unit mem => fits unit (.tail _ (.tail _ mem))) others)
    | case4 => contradiction
    | case5 => contradiction
    | case6 unit low rest not_high not_low ih =>
      obtain ⟨later, others, rfl⟩ := Option.map_eq_some_iff.1 spelled
      exact .single (fits unit (.head _)) not_high not_low
        (ih (fun unit mem => fits unit (.tail _ mem)) others)
    | case7 => contradiction
    | case8 unit rest _ neither ih =>
      obtain ⟨later, others, rfl⟩ := Option.map_eq_some_iff.1 spelled
      obtain ⟨not_high, not_low⟩ := not_or.1 (Bool.or_eq_true _ _ ▸ neither)
      exact .single (fits unit (.head _)) not_high not_low
        (ih (fun unit mem => fits unit (.tail _ mem)) others)
  · intro units
    clear fits
    induction units with
    | nil => rfl
    | char c _ ih => rw [spell?, ih, Option.map_some]
    -- No character is a surrogate, so its unit does not start a pair.
    | basic c within _ ih =>
      have valid := isValidChar_iff.1 c.valid
      have number : c.val.toNat = c.toNat := rfl
      have high : ¬isHighSurrogate c.toNat := by
        rw [isHighSurrogate_iff]
        omega
      have low : ¬isLowSurrogate c.toNat := by
        rw [isLowSurrogate_iff]
        omega
      rw [spell?_single high low, ih, Char.ofNat_toNat, Option.map_some]
    | pair c beyond _ ih =>
      have valid := isValidChar_iff.1 c.valid
      have number : c.val.toNat = c.toNat := rfl
      have high := isHighSurrogate_iff.2 (⟨by omega, by omega⟩ :
        0xd800 ≤ 0xd800 + (c.toNat - 0x10000) / 0x400 ∧ _)
      have low := isLowSurrogate_iff.2 (⟨by omega, by omega⟩ :
        0xdc00 ≤ 0xdc00 + (c.toNat - 0x10000) % 0x400 ∧ _)
      rw [spell?, if_pos high, if_pos low, ih, Option.map_some]
      -- The two halves of the number are put together again.
      have value : 0x10000 + (0xd800 + (c.toNat - 0x10000) / 0x400 - 0xd800) * 0x400 +
          (0xdc00 + (c.toNat - 0x10000) % 0x400 - 0xdc00) = c.toNat := by omega
      rw [value, Char.ofNat_toNat]

/-! ## Numerals

Each part of a numeral has a relation between its value and its text. That the reader finds the part
is shown in both directions: what it takes is a text of the part, and it takes a text of the part
whenever what stands behind cannot belong to it. -/

/-- One digit or more. -/
def Digits (text : List Char) : Prop :=
  text ≠ [] ∧ ∀ c ∈ text, c.isDigit

theorem Digits.exists_cons {text : List Char} (digits : Digits text) :
    ∃ c rest, text = c :: rest ∧ c.isDigit := by
  obtain ⟨nonempty, each⟩ := digits
  obtain ⟨c, rest, rfl⟩ := List.exists_cons_of_ne_nil nonempty
  exact ⟨c, rest, rfl, each c (.head _)⟩

/-- The signs that an exponent can have, with whether they make it negative. -/
inductive SignText : Bool → List Char → Prop
  | none : SignText false []
  | plus : SignText false ['+']
  | minus : SignText true ['-']

/-- The texts of a fraction, which may be missing. -/
inductive FractionText : Option (List Char) → List Char → Prop
  | none : FractionText none []
  | some {digits : List Char} : Digits digits → FractionText (some digits) ('.' :: digits)

/-- The texts of an exponent, which may be missing. -/
inductive ExponentText : Option (Bool × List Char) → List Char → Prop
  | none : ExponentText none []
  | some {mark : Char} {negative : Bool} {sign digits : List Char}
    (marked : mark = 'e' ∨ mark = 'E') :
    SignText negative sign → Digits digits →
      ExponentText (some (negative, digits)) (mark :: (sign ++ digits))

/-- The text of a numeral: an optional minus sign, a whole part that has no leading zero, and what
may follow it. -/
inductive NumeralText : Numeral → List Char → Prop
  | mk (negative : Bool) {whole fraction exponent : List Char} {f : Option (List Char)}
    {e : Option (Bool × List Char)} (digits : Digits whole)
    (leading : ∀ rest, whole = '0' :: rest → rest = []) :
    FractionText f fraction → ExponentText e exponent →
      NumeralText ⟨negative, whole, f, e⟩
        ((if negative then ['-'] else []) ++ (whole ++ (fraction ++ exponent)))

/-- No digit comes next. -/
def NoDigit (rest : List Char) : Prop :=
  ∀ c ∈ rest.head?, c.isDigit = false

theorem Stops.noDigit {rest : List Char} (stops : Stops rest) : NoDigit rest :=
  fun c first => (stops c first).1

theorem someDigits?_eq_some_iff {text digits rest : List Char} :
    someDigits? text = some (digits, rest) ↔
      Digits digits ∧ NoDigit rest ∧ text = digits ++ rest := by
  have run : someDigits? text = some (digits, rest) ↔
      digits ≠ [] ∧ text.takeWhile Char.isDigit = digits ∧ text.dropWhile Char.isDigit = rest := by
    rw [someDigits?, digitRun]
    split
    · next split_eq =>
      rw [(Prod.mk.inj split_eq).1]
      simp +contextual [eq_comm]
    · next found =>
      constructor
      · rintro ⟨⟩
        exact ⟨fun empty => found _ (by rw [empty]), rfl, rfl⟩
      · rintro ⟨-, rfl, rfl⟩
        rfl
  rw [run]
  constructor
  · rintro ⟨nonempty, rfl, rfl⟩
    refine ⟨⟨nonempty, fun c mem => ?_⟩, fun c first => ?_, List.takeWhile_append_dropWhile.symm⟩
    · exact List.mem_takeWhile_imp mem
    · -- The run ends where the first character is that is no digit.
      have stop := List.head?_dropWhile_not Char.isDigit text
      rw [first] at stop
      exact stop
  · rintro ⟨⟨nonempty, digits⟩, stop, rfl⟩
    have behind : rest.takeWhile Char.isDigit = [] ∧ rest.dropWhile Char.isDigit = rest := by
      cases rest with
      | nil => exact ⟨rfl, rfl⟩
      | cons c rest => simp [stop c rfl]
    refine ⟨nonempty, ?_, ?_⟩
    · rw [List.takeWhile_append_of_pos digits, behind.1, List.append_nil]
    · rw [List.dropWhile_append_of_pos digits, behind.2]

theorem scanFraction_sound {text rest : List Char} {fraction : Option (List Char)}
    (scanned : scanFraction text = some (fraction, rest)) :
    ∃ piece, FractionText fraction piece ∧ text = piece ++ rest := by
  unfold scanFraction at scanned
  split at scanned
  · obtain ⟨run, digits, same⟩ := Option.map_eq_some_iff.1 scanned
    cases same
    obtain ⟨some_digits, -, rfl⟩ := someDigits?_eq_some_iff.1 digits
    exact ⟨_, .some some_digits, rfl⟩
  · cases scanned
    exact ⟨[], .none, rfl⟩

theorem scanFraction_complete {fraction : Option (List Char)} {piece rest : List Char}
    (written : FractionText fraction piece) (digit : NoDigit rest) (point : rest.head? ≠ some '.') :
    scanFraction (piece ++ rest) = some (fraction, rest) := by
  cases written with
  | none =>
    rw [List.nil_append]
    unfold scanFraction
    split
    · exact absurd rfl point
    · rfl
  | some digits =>
    rw [List.cons_append, scanFraction, someDigits?_eq_some_iff.2 ⟨digits, digit, rfl⟩]
    rfl

theorem scanSign_sound (text : List Char) :
    ∃ sign, SignText (scanSign text).1 sign ∧ text = sign ++ (scanSign text).2 := by
  unfold scanSign
  split
  · exact ⟨_, .minus, rfl⟩
  · exact ⟨_, .plus, rfl⟩
  · exact ⟨_, .none, rfl⟩

theorem scanSign_complete {sign digits rest : List Char} {negative : Bool}
    (written : SignText negative sign) (some_digits : Digits digits) :
    scanSign (sign ++ (digits ++ rest)) = (negative, digits ++ rest) := by
  cases written with
  | plus => rfl
  | minus => rfl
  -- Without a sign a digit comes first, which is neither of the two signs.
  | none =>
    obtain ⟨c, digits, rfl, first⟩ := some_digits.exists_cons
    rw [List.nil_append, List.cons_append, scanSign]
    · rintro _ ⟨⟩
      contradiction
    · rintro _ ⟨⟩
      contradiction

theorem scanExponent_sound {text rest : List Char} {exponent : Option (Bool × List Char)}
    (scanned : scanExponent text = some (exponent, rest)) :
    ∃ piece, ExponentText exponent piece ∧ text = piece ++ rest := by
  cases text with
  | nil =>
    cases scanned
    exact ⟨[], .none, rfl⟩
  | cons c text =>
    rw [scanExponent] at scanned
    split_ifs at scanned with marked
    · obtain ⟨run, digits, same⟩ := Option.map_eq_some_iff.1 scanned
      cases same
      obtain ⟨some_digits, -, behind⟩ := someDigits?_eq_some_iff.1 digits
      obtain ⟨sign, signed, split⟩ := scanSign_sound text
      refine ⟨_, .some marked signed some_digits, ?_⟩
      rw [List.cons_append, List.append_assoc, ← behind, ← split]
    · cases scanned
      exact ⟨[], .none, rfl⟩

theorem scanExponent_complete {exponent : Option (Bool × List Char)} {piece rest : List Char}
    (written : ExponentText exponent piece) (stops : Stops rest) :
    scanExponent (piece ++ rest) = some (exponent, rest) := by
  cases written with
  | none => exact scanExponent_of_stops stops
  | some marked sign digits =>
    rw [List.cons_append, scanExponent, if_pos marked, List.append_assoc,
      scanSign_complete sign digits]
    simp only [someDigits?_eq_some_iff.2 ⟨digits, stops.noDigit, rfl⟩, Option.map_some]

/-- What comes behind the fraction does not continue it. -/
theorem ExponentText.head_append {exponent : Option (Bool × List Char)} {piece rest : List Char}
    (written : ExponentText exponent piece) (stops : Stops rest) :
    ∀ c ∈ (piece ++ rest).head?, c.isDigit = false ∧ c ≠ '.' := by
  cases written with
  | none => exact fun c first => ⟨(stops c first).1, (stops c first).2.1⟩
  | some marked =>
    rintro _ ⟨⟩
    rcases marked with rfl | rfl <;> decide

theorem hasLeadingZero_eq_false_iff {whole : List Char} :
    hasLeadingZero whole = false ↔ ∀ rest, whole = '0' :: rest → rest = [] := by
  unfold hasLeadingZero
  split
  · simp
  · next no_zeros =>
    refine ⟨fun _ rest zero => ?_, fun _ => rfl⟩
    cases rest with
    | nil => rfl
    | cons c rest => exact absurd zero (no_zeros c rest)

theorem scanMagnitude_sound {negative : Bool} {text rest : List Char} {n : Numeral}
    (scanned : scanMagnitude negative text = some (n, rest)) :
    ∃ piece, NumeralText n ((if negative then ['-'] else []) ++ piece) ∧ text = piece ++ rest := by
  unfold scanMagnitude at scanned
  split at scanned
  · contradiction
  · next whole behind run =>
    split_ifs at scanned with zeros
    split at scanned
    · contradiction
    · next fraction later fraction_scanned =>
      obtain ⟨⟨exponent, last⟩, exponent_scanned, same⟩ := Option.map_eq_some_iff.1 scanned
      cases same
      obtain ⟨digits, -, rfl⟩ := someDigits?_eq_some_iff.1 run
      obtain ⟨f, fraction_text, rfl⟩ := scanFraction_sound fraction_scanned
      obtain ⟨e, exponent_text, rfl⟩ := scanExponent_sound exponent_scanned
      -- A zero in front of other digits was refused, so the digits have none.
      have leading := hasLeadingZero_eq_false_iff.1 (Bool.eq_false_of_not_eq_true zeros)
      refine ⟨_, .mk negative digits leading fraction_text exponent_text, ?_⟩
      simp only [List.append_assoc]

theorem scanNumeral_sound {text rest : List Char} {n : Numeral}
    (scanned : scanNumeral text = some (n, rest)) :
    ∃ piece, NumeralText n piece ∧ text = piece ++ rest := by
  unfold scanNumeral at scanned
  split at scanned
  all_goals
    obtain ⟨piece, written, rfl⟩ := scanMagnitude_sound scanned
    exact ⟨_, written, rfl⟩

theorem scanNumeral_complete {n : Numeral} {piece rest : List Char} (written : NumeralText n piece)
    (stops : Stops rest) : scanNumeral (piece ++ rest) = some (n, rest) := by
  cases written with
  | @mk negative whole fraction exponent f e digits leading fraction_text exponent_text =>
    -- What stops a lexeme is no digit and no point, so each part ends where it was written to end.
    have next := exponent_text.head_append stops
    have no_digit : NoDigit (exponent ++ rest) := fun c first => (next c first).1
    have no_point : (exponent ++ rest).head? ≠ some '.' := fun first => (next '.' first).2 rfl
    have behind : NoDigit (fraction ++ (exponent ++ rest)) := by
      cases fraction_text with
      | none => exact no_digit
      | some => exact fun c first => by cases first; rfl
    have magnitude : scanMagnitude negative (whole ++ (fraction ++ (exponent ++ rest))) =
        some (⟨negative, whole, f, e⟩, rest) := by
      rw [scanMagnitude, someDigits?_eq_some_iff.2 ⟨digits, behind, rfl⟩]
      simp only [hasLeadingZero_eq_false_iff.2 leading, Bool.false_eq_true, if_false,
        scanFraction_complete fraction_text no_digit no_point,
        scanExponent_complete exponent_text stops, Option.map_some]
    simp only [List.append_assoc]
    cases negative with
    | true => exact magnitude
    | false =>
      obtain ⟨c, whole, rfl, first⟩ := digits.exists_cons
      rw [← magnitude]
      show scanNumeral (c :: _) = _
      rw [scanNumeral]
      · rfl
      · rintro _ ⟨⟩
        contradiction

theorem NumeralText.head {n : Numeral} {text : List Char} (written : NumeralText n text) :
    ∃ c rest, text = c :: rest ∧ (c.isDigit ∨ c = '-') := by
  cases written with
  | @mk negative whole _ _ _ _ digits =>
    cases negative with
    | true => exact ⟨_, _, rfl, .inr rfl⟩
    | false =>
      obtain ⟨c, whole, rfl, first⟩ := digits.exists_cons
      exact ⟨_, _, rfl, .inl first⟩

/-! ## Lexemes -/

/-- The text of a string between its quotes, and the value: none when half a surrogate pair in it
stands for nothing. -/
inductive StringText : Option String → List Char → Prop
  | known {parts : List Part} {body text : List Char} :
    Inside parts body → Units parts text → StringText (some (String.ofList text)) body
  | unknown {parts : List Part} {body : List Char} :
    Inside parts body → (∀ text, ¬Units parts text) → StringText none body

/-- The texts that a lexeme can have. -/
inductive Lexeme : Token → List Char → Prop
  | openBrace : Lexeme .openBrace ['\x7b']
  | closeBrace : Lexeme .closeBrace ['\x7d']
  | openBracket : Lexeme .openBracket ['[']
  | closeBracket : Lexeme .closeBracket [']']
  | colon : Lexeme .colon [':']
  | comma : Lexeme .comma [',']
  | null : Lexeme .null ['n', 'u', 'l', 'l']
  | bool (value : Bool) : Lexeme (.bool value) (boolText value)
  | number {n : Numeral} {text : List Char} :
    NumeralText n text → Lexeme (.number n.number?) text
  | string {value : Option String} {body : List Char} :
    StringText value body → Lexeme (.string value) ('"' :: (body ++ ['"']))

theorem Inside.fits {parts : List Part} {body : List Char} (inside : Inside parts body) :
    ∀ unit, .code unit ∈ parts → unit < 0x10000 := by
  induction inside with
  | nil => simp
  | cons written _ ih =>
    intro unit mem
    rcases List.mem_cons.1 mem with rfl | mem
    · cases written with
      | code value =>
        have bound : unit < 16 ^ 4 := value.lt (by decide)
        omega
    · exact ih unit mem

theorem stringText_iff {value : Option String} {body : List Char} :
    StringText value body ↔
      ∃ parts, Inside parts body ∧ (spell? parts).map String.ofList = value := by
  constructor
  · rintro (⟨inside, units⟩ | ⟨inside, nothing⟩)
    · exact ⟨_, inside, by rw [(spell?_eq_some_iff inside.fits).2 units, Option.map_some]⟩
    · refine ⟨_, inside, ?_⟩
      rw [Option.map_eq_none_iff, Option.eq_none_iff_forall_not_mem]
      exact fun text spelled => nothing text ((spell?_eq_some_iff inside.fits).1 spelled)
  · rintro ⟨parts, inside, rfl⟩
    cases spelled : spell? parts with
    | some text => exact .known inside ((spell?_eq_some_iff inside.fits).1 spelled)
    | none =>
      -- That no text belongs to the units is what makes the value unknown.
      refine .unknown inside fun text units => ?_
      rw [(spell?_eq_some_iff inside.fits).2 units] at spelled
      contradiction

theorem behind?_eq_some_iff {word text rest : List Char} :
    behind? word text = some rest ↔ text = word ++ rest := by
  induction word generalizing text with
  | nil => simp [behind?]
  | cons w word ih =>
    cases text with
    | nil => simp [behind?]
    | cons c text =>
      by_cases same : w = c
      · simp [behind?, same, ih]
      · simp [behind?, same, Ne.symm same]

theorem scan_string (text : List Char) :
    scan '"' text = (scanString text).map fun scanned =>
      (.string ((spell? scanned.1).map String.ofList), scanned.2) :=
  rfl

/-- The scanner takes a lexeme off the front of a text. -/
theorem lexeme_of_scan {c : Char} {rest behind : List Char} {token : Token}
    (scanned : scan c rest = some (token, behind)) :
    ∃ piece, Lexeme token piece ∧ c :: rest = piece ++ behind := by
  unfold scan at scanned
  split at scanned
  case h_1 => cases scanned; exact ⟨_, .openBrace, rfl⟩
  case h_2 => cases scanned; exact ⟨_, .closeBrace, rfl⟩
  case h_3 => cases scanned; exact ⟨_, .openBracket, rfl⟩
  case h_4 => cases scanned; exact ⟨_, .closeBracket, rfl⟩
  case h_5 => cases scanned; exact ⟨_, .colon, rfl⟩
  case h_6 => cases scanned; exact ⟨_, .comma, rfl⟩
  case h_7 =>
    obtain ⟨_, word, same⟩ := Option.map_eq_some_iff.1 scanned
    cases same
    exact ⟨_, .null, congrArg _ (behind?_eq_some_iff.1 word)⟩
  case h_8 =>
    obtain ⟨_, word, same⟩ := Option.map_eq_some_iff.1 scanned
    cases same
    exact ⟨_, .bool true, congrArg _ (behind?_eq_some_iff.1 word)⟩
  case h_9 =>
    obtain ⟨_, word, same⟩ := Option.map_eq_some_iff.1 scanned
    cases same
    exact ⟨_, .bool false, congrArg _ (behind?_eq_some_iff.1 word)⟩
  case h_10 =>
    obtain ⟨⟨parts, later⟩, inner, same⟩ := Option.map_eq_some_iff.1 scanned
    cases same
    obtain ⟨body, inside, rfl⟩ := scanString_eq_some_iff.1 inner
    refine ⟨_, .string (stringText_iff.2 ⟨parts, inside, rfl⟩), ?_⟩
    rw [List.cons_append, List.append_assoc, List.singleton_append]
  case h_11 =>
    obtain ⟨⟨n, later⟩, numeral, same⟩ := Option.map_eq_some_iff.1 scanned
    cases same
    obtain ⟨piece, written, split⟩ := scanNumeral_sound numeral
    exact ⟨piece, .number written, split⟩

/-- A lexeme is taken whole when nothing follows that would continue a numeral. -/
theorem Lexeme.cutsInto {token : Token} {text : List Char} (lexeme : Lexeme token text) :
    CutsInto text [token] := by
  cases lexeme with
  | openBrace => exact .cons (by decide) (fun _ => rfl) .nil
  | closeBrace => exact .cons (by decide) (fun _ => rfl) .nil
  | openBracket => exact .cons (by decide) (fun _ => rfl) .nil
  | closeBracket => exact .cons (by decide) (fun _ => rfl) .nil
  | colon => exact .cons (by decide) (fun _ => rfl) .nil
  | comma => exact .cons (by decide) (fun _ => rfl) .nil
  | null => exact .single (by decide) fun _ _ => rfl
  | bool value => exact cutsInto_boolText value
  | @number n text written =>
    obtain ⟨c, rest, rfl, starts⟩ := written.head
    -- The first character is a digit or a minus sign, and neither is a blank.
    have solid : isSpace c = false := by
      by_contra space
      have space : isSpace c := by simpa using space
      rcases starts with digit | rfl
      · rw [not_digit_of_isSpace space] at digit
        contradiction
      · contradiction
    refine .single solid fun behind stops => ?_
    rw [scan_numeral starts, ← List.cons_append, scanNumeral_complete written stops,
      Option.map_some]
  | @string value body written =>
    obtain ⟨parts, inside, rfl⟩ := stringText_iff.1 written
    refine .single (by decide) fun behind _ => ?_
    rw [List.append_assoc, List.singleton_append, scan_string,
      scanString_eq_some_iff.2 ⟨body, inside, rfl⟩, Option.map_some]

/-- What stands in front of the first lexeme of a text, the lexeme, and what stands behind it. -/
theorem exists_of_lex_cons {text : List Char} {token : Token} {tokens : List Token}
    (cut : lex text = some (token :: tokens)) :
    ∃ gap piece rest, Gap gap ∧ Lexeme token piece ∧ text = gap ++ (piece ++ rest) ∧
      lex rest = some tokens := by
  fun_induction lex text with
  | case1 => cases cut
  | case2 c rest space ih =>
    -- A blank lengthens the gap before the lexeme that is found behind it.
    obtain ⟨gap, piece, behind, blank, lexeme, rfl, later⟩ := ih cut
    exact ⟨c :: gap, piece, behind, List.forall_mem_cons.2 ⟨space, blank⟩, lexeme, rfl, later⟩
  | case3 => cases cut
  | case4 c rest solid first behind scanned =>
    obtain ⟨others, later, same⟩ := Option.map_eq_some_iff.1 cut
    cases same
    obtain ⟨piece, lexeme, split⟩ := lexeme_of_scan scanned
    exact ⟨[], piece, behind, by simp [Gap], lexeme, split, later⟩

/-- A text without lexemes. -/
theorem gap_of_lex_nil {text : List Char} (cut : lex text = some []) : Gap text := by
  fun_induction lex text with
  | case1 => simp [Gap]
  | case2 c rest space ih => exact List.forall_mem_cons.2 ⟨space, ih cut⟩
  | case3 => cases cut
  | case4 => simp at cut

end FormatConformance.Json.Token
