import FormatConformance.Json.Printer
import FormatConformance.Json.Token
import FormatConformance.Proofs.Numeral

/-!
# Cutting a written value into lexemes

What the printer writes for a string or an integer is one lexeme of the reader. `Escaped` says once
what the printer makes of a character inside a string: it stands for itself, is named by a letter
behind a backslash, or is a control character given by its code. From this follow the two facts that
count on a line protocol, that no control character is left in the text (`printable_quote`) and that
the reader gets back the string (`scan_quote`).

A numeral ends where no character follows that could continue it, which is the only way in which a
lexeme depends on what stands behind it. `CutsInto` has this proviso built in, so that texts are put
together without a thought about numerals.
-/

namespace FormatConformance.Json

open FormatConformance.Numeral (digitChar digitRun paddedHex decimal signedDecimal digits_ne_nil
  digits_of_lt digits_of_pos forall_mem_paddedHex isDigit_of_mem_decimal paddedHex_four reads_digits
  digitValue?_digitChar)

/-! ## Characters inside a string -/

/-- Not one of the control characters below the space. -/
def Printable (c : Char) : Prop :=
  0x20 ≤ c.toNat

instance (c : Char) : Decidable (Printable c) :=
  inferInstanceAs (Decidable (0x20 ≤ c.toNat))

/-- The texts that stand for a character inside a string. -/
inductive Escaped (c : Char) : List Char → Prop
  | plain (printable : Printable c) (quote : c ≠ '"') (backslash : c ≠ '\\') : Escaped c [c]
  | letter (l : Char) (printable : Printable l) (named : Token.shortEscape? l = some c) :
    Escaped c ['\\', l]
  | code (control : c.toNat < 0x20) : Escaped c ('\\' :: 'u' :: paddedHex 4 c.toNat)

theorem escaped_escapeChar (c : Char) : Escaped c (escapeChar c) := by
  unfold escapeChar
  split_ifs with quote backslash backspace feed line carriage tab control
  · exact .letter '"' (by decide) (by rw [quote]; rfl)
  · exact .letter '\\' (by decide) (by rw [backslash]; rfl)
  · exact .letter 'b' (by decide) (by rw [backspace]; rfl)
  · exact .letter 'f' (by decide) (by rw [feed]; rfl)
  · exact .letter 'n' (by decide) (by rw [line]; rfl)
  · exact .letter 'r' (by decide) (by rw [carriage]; rfl)
  · exact .letter 't' (by decide) (by rw [tab]; rfl)
  · exact .code control
  · exact .plain (Nat.le_of_not_lt control) quote backslash

theorem printable_digitChar : ∀ d < 16, Printable (digitChar d) := by decide

theorem Escaped.all_printable {c : Char} {text : List Char} (escaped : Escaped c text) :
    ∀ x ∈ text, Printable x := by
  cases escaped with
  | plain printable => simpa
  | letter l printable named => simpa using ⟨by decide, printable⟩
  | code control =>
    intro x mem
    -- A backslash, the letter, and then four digits.
    rcases List.mem_cons.1 mem with rfl | mem
    · decide
    rcases List.mem_cons.1 mem with rfl | mem
    · decide
    exact forall_mem_paddedHex printable_digitChar _ _ x mem

theorem printable_quote (text : List Char) : ∀ x ∈ quote text, Printable x := by
  intro x mem
  rcases List.mem_cons.1 mem with rfl | mem
  · decide
  rcases List.mem_append.1 mem with inside | last
  · obtain ⟨c, -, escaped⟩ := List.mem_flatMap.1 inside
    exact (escaped_escapeChar c).all_printable x escaped
  · rw [List.mem_singleton.1 last]
    decide

namespace Token

/-- The parts that spell a character on their own. -/
inductive Spells : Part → Char → Prop
  | char (c : Char) : Spells (.char c) c
  | code (c : Char) (control : c.toNat < 0x20) : Spells (.code c.toNat) c

theorem spell?_code {unit : Nat} (plain : unit < 0xd800) (parts : List Part) :
    spell? (.code unit :: parts) = (spell? parts).map (Char.ofNat unit :: ·) := by
  have high : isHighSurrogate unit = false := by simp [isHighSurrogate]; omega
  have low : isLowSurrogate unit = false := by simp [isLowSurrogate]; omega
  cases parts with
  | nil => simp [spell?, high, low]
  | cons part parts => cases part <;> simp [spell?, high, low]

theorem spell?_of_spells {parts : List Part} {text : List Char}
    (spells : List.Forall₂ Spells parts text) : spell? parts = some text := by
  induction spells with
  | nil => rfl
  | @cons part c parts text first _ ih =>
    cases first with
    | char => rw [spell?, ih]; rfl
    | code _ control => rw [spell?_code (by omega), ih, Char.ofNat_toNat]; rfl

theorem codeUnit?_paddedHex {n : Nat} (fits : n < 16 ^ 4) :
    ∃ a b c d, paddedHex 4 n = [a, b, c, d] ∧ codeUnit? a b c d = some n := by
  obtain ⟨a, ha, b, hb, c, hc, d, hd, four, value⟩ := paddedHex_four fits
  have digit : ∀ v < 16, hexValue? (digitChar v) = some v := fun v small =>
    digitValue?_digitChar le_rfl small
  refine ⟨_, _, _, _, four, ?_⟩
  rw [codeUnit?, digit a ha, digit b hb, digit c hc, digit d hd, ← value]
  rfl

/-- The reader takes the text that stands for a character as one part. -/
theorem scanString_escaped {c : Char} {text : List Char} (escaped : Escaped c text)
    (rest : List Char) :
    ∃ part, Spells part c ∧ scanString (text ++ rest) = (scanString rest).map part.before := by
  cases escaped with
  | plain printable quote backslash =>
    refine ⟨.char c, .char c, ?_⟩
    -- A character that is written as it is starts no escape and is no control.
    have allowed : ¬(c = '\\' ∨ c.toNat < 0x20) := by
      rintro (same | control)
      · exact backslash same
      · exact absurd printable (Nat.not_le_of_lt control)
    rw [List.singleton_append, scanString, if_neg allowed]
    · exact quote
    · exact fun _ _ _ _ _ same => absurd same backslash
    · exact fun _ _ same => absurd same backslash
  | letter l printable named =>
    refine ⟨.char c, .char c, ?_⟩
    -- The letter of the escape for numbers stands for no character of its own.
    have other : l ≠ 'u' := by
      rintro rfl
      simp [shortEscape?] at named
    show scanString ('\\' :: l :: rest) = _
    rw [scanString, named]
    exact fun _ _ _ _ _ same => absurd same other
  | code control =>
    refine ⟨.code c.toNat, .code c control, ?_⟩
    obtain ⟨w, x, y, z, four, unit⟩ := codeUnit?_paddedHex (n := c.toNat) (by omega)
    rw [four]
    show scanString ('\\' :: 'u' :: w :: x :: y :: z :: rest) = _
    rw [scanString, unit]

theorem scanString_quoted (text rest : List Char) :
    ∃ parts, List.Forall₂ Spells parts text ∧
      scanString (text.flatMap escapeChar ++ '"' :: rest) = some (parts, rest) := by
  induction text with
  | nil => exact ⟨[], .nil, by rw [List.flatMap_nil, List.nil_append, scanString]⟩
  | cons c text ih =>
    obtain ⟨parts, spells, scanned⟩ := ih
    obtain ⟨part, first, step⟩ :=
      scanString_escaped (escaped_escapeChar c) (text.flatMap escapeChar ++ '"' :: rest)
    refine ⟨part :: parts, .cons first spells, ?_⟩
    rw [List.flatMap_cons, List.append_assoc, step, scanned]
    rfl

/-- A written string is one lexeme, and its value is the string. -/
theorem scan_quote (text rest : List Char) :
    scan '"' (text.flatMap escapeChar ++ '"' :: rest) =
      some (.string (some (String.ofList text)), rest) := by
  obtain ⟨parts, spells, scanned⟩ := scanString_quoted text rest
  rw [scan, scanned]
  show some (Token.string ((spell? parts).map String.ofList), rest) = _
  rw [spell?_of_spells spells]
  rfl

/-! ## Integers -/

/-- What may stand behind a numeral: no character that could continue it. -/
def Stops (rest : List Char) : Prop :=
  ∀ c ∈ rest.head?, c.isDigit = false ∧ c ≠ '.' ∧ c ≠ 'e' ∧ c ≠ 'E'

theorem stops_nil : Stops [] := by
  simp [Stops]

theorem Stops.append {text rest : List Char} (stops : Stops text) (after : Stops rest) :
    Stops (text ++ rest) := by
  cases text with
  | nil => exact after
  | cons c text => exact stops

theorem digit_cases : ∀ d < 10, (digitChar d).isDigit ∧ Numeral.digitValue (digitChar d) = d := by
  decide

theorem digitRun_decimal {rest : List Char} (stops : Stops rest) (n : Nat) :
    digitRun (decimal n ++ rest) = (decimal n, rest) := by
  have inside : ∀ c ∈ decimal n, c.isDigit := fun c => isDigit_of_mem_decimal
  have behind : rest.takeWhile Char.isDigit = [] ∧ rest.dropWhile Char.isDigit = rest := by
    cases rest with
    | nil => exact ⟨rfl, rfl⟩
    | cons c rest => simp [(stops c rfl).1]
  rw [digitRun, List.takeWhile_append_of_pos inside, List.dropWhile_append_of_pos inside,
    behind.1, behind.2, List.append_nil]

theorem hasLeadingZero_decimal (n : Nat) : hasLeadingZero (decimal n) = false := by
  rcases Nat.eq_zero_or_pos n with rfl | positive
  · rw [decimal, digits_of_lt (by decide)]
    rfl
  · obtain ⟨d, rest, d_pos, d_lt, first⟩ := @digits_of_pos 10 n (by decide) positive
    rw [decimal, first]
    have nonzero : ∀ d < 10, 0 < d → digitChar d ≠ '0' := by decide
    unfold hasLeadingZero
    split
    · next same => exact absurd (List.cons.inj same).1 (nonzero d d_lt d_pos)
    · rfl

theorem scanFraction_of_stops {rest : List Char} (stops : Stops rest) :
    scanFraction rest = some (none, rest) := by
  cases rest with
  | nil => rfl
  | cons c rest =>
    rw [scanFraction]
    exact fun _ same => absurd (List.cons.inj same).1 (stops c rfl).2.1

theorem scanExponent_of_stops {rest : List Char} (stops : Stops rest) :
    scanExponent rest = some (none, rest) := by
  cases rest with
  | nil => rfl
  | cons c rest =>
    have other : ¬(c = 'e' ∨ c = 'E') := not_or.2 (stops c rfl).2.2
    rw [scanExponent, if_neg other]

theorem scanMagnitude_decimal {rest : List Char} (stops : Stops rest) (negative : Bool) (n : Nat) :
    scanMagnitude negative (decimal n ++ rest) =
      some (⟨negative, decimal n, none, none⟩, rest) := by
  have run : someDigits? (decimal n ++ rest) = some (decimal n, rest) := by
    rw [someDigits?, digitRun_decimal stops]
    split
    · next none => exact absurd (Prod.ext_iff.1 none).1 (digits_ne_nil 10 n)
    · rfl
  rw [scanMagnitude, run]
  simp only [hasLeadingZero_decimal, scanFraction_of_stops stops, scanExponent_of_stops stops]
  rfl

end Token

/-- An integer of 64 bits, with or without sign. -/
def Number.Integral : Number → Prop
  | .int value => -2 ^ 63 ≤ value ∧ value < 2 ^ 64
  | .double _ => False

namespace Numeral

theorem gather_decimal {limit n : Nat} (fits : n ≤ limit) :
    gather limit 0 (decimal n) = (n, []) := by
  have step : ∀ v d rest, d < 10 → v * 10 + d ≤ limit →
      gather limit v (digitChar d :: rest) = gather limit (v * 10 + d) rest := by
    intro v d rest small within
    rw [gather, (Token.digit_cases d small).2, if_pos within]
  have read := reads_digits (n := n) (v := 0) (by decide) step (by simpa using fits) []
  rw [List.append_nil, Nat.zero_mul, Nat.zero_add] at read
  exact read

theorem number?_decimal {n : Nat} (fits : n < 2 ^ 64) :
    number? ⟨false, decimal n, none, none⟩ = some (.int n) := by
  have whole : gather bound 0 (decimal n) = (n, []) := gather_decimal (by unfold bound; omega)
  simp [number?, whole]

theorem number?_negative {n : Nat} (positive : 1 ≤ n) (fits : n ≤ 2 ^ 63) :
    number? ⟨true, decimal n, none, none⟩ = some (.int (-n)) := by
  have whole : gather bound 0 (decimal n) = (n, []) := gather_decimal (by unfold bound; omega)
  have range : 1 ≤ n ∧ n ≤ 0x8000000000000000 := ⟨positive, by omega⟩
  simp [number?, whole, range]

end Numeral

namespace Token

/-- A digit or a minus sign starts a numeral. -/
theorem scan_numeral {c : Char} (starts : c.isDigit ∨ c = '-') (rest : List Char) :
    scan c rest = (scanNumeral (c :: rest)).map fun scanned =>
      (.number scanned.1.number?, scanned.2) := by
  unfold scan
  split
  case h_11 => rfl
  all_goals exact absurd starts (by decide)

theorem not_digit_of_isSpace {c : Char} (space : isSpace c) : c.isDigit = false := by
  simp only [isSpace, Bool.or_eq_true, decide_eq_true_eq] at space
  rcases space with ((rfl | rfl) | rfl) | rfl <;> rfl

theorem scan_decimal {n : Nat} (fits : n < 2 ^ 64) {rest : List Char} (stops : Stops rest) :
    ∃ c text, decimal n = c :: text ∧ isSpace c = false ∧
      scan c (text ++ rest) = some (.number (some (.int n)), rest) := by
  obtain ⟨c, text, first⟩ : ∃ c text, decimal n = c :: text :=
    List.exists_cons_of_ne_nil (digits_ne_nil 10 n)
  have digit : c.isDigit := isDigit_of_mem_decimal (first ▸ List.mem_cons_self)
  refine ⟨c, text, first, ?_, ?_⟩
  · by_contra space
    simp [not_digit_of_isSpace (by simpa using space)] at digit
  · -- A digit is no minus sign, so the numeral is read without one.
    have unsigned : c ≠ '-' := by
      rintro rfl
      contradiction
    rw [scan_numeral (.inl digit), scanNumeral, ← List.cons_append, ← first,
      scanMagnitude_decimal stops, Option.map_some, Numeral.number?_decimal fits]
    exact fun _ same => absurd (List.cons.inj same).1 unsigned

/-- An integer is one lexeme, and its value is the integer. -/
theorem scan_signedDecimal {value : Int} (integral : (Number.int value).Integral)
    {rest : List Char} (stops : Stops rest) :
    ∃ c text, signedDecimal value = c :: text ∧ isSpace c = false ∧
      scan c (text ++ rest) = some (.number (some (.int value)), rest) := by
  cases value with
  | ofNat n =>
    have fits : n < 2 ^ 64 := by simpa using Int.ofNat_lt.1 integral.2
    exact scan_decimal fits stops
  | negSucc n =>
    -- The least value has no positive counterpart, which is why the bound is one further.
    have fits : n + 1 ≤ 2 ^ 63 := by have := integral.1; omega
    refine ⟨'-', decimal (n + 1), rfl, rfl, ?_⟩
    rw [scan_numeral (.inr rfl), scanNumeral, scanMagnitude_decimal stops, Option.map_some,
      Numeral.number?_negative (by omega) fits]
    rfl

/-! ## Texts put together

Two texts can be cut one after the other when the second one starts with something that no lexeme
goes on with. Only a numeral could go on, so only digits and the like are in question. -/

theorem lex_cons {c : Char} {rest rest' : List Char} {token : Token} (solid : isSpace c = false)
    (scanned : scan c rest = some (token, rest')) :
    lex (c :: rest) = (lex rest').map (token :: ·) := by
  rw [lex, if_neg (by simp [solid])]
  split
  · next none => simp [scanned] at none
  · next token' after some =>
    obtain ⟨rfl, rfl⟩ := Prod.mk.inj (Option.some.inj (scanned.symm.trans some))
    rfl

/-- A text is cut into lexemes, whatever stands behind it that does not continue a numeral. -/
def CutsInto (text : List Char) (tokens : List Token) : Prop :=
  ∀ rest, Stops rest → lex (text ++ rest) = (lex rest).map (tokens ++ ·)

theorem CutsInto.nil : CutsInto [] [] := by
  intro rest _
  simp

/-- A single lexeme. -/
theorem CutsInto.single {c : Char} {text : List Char} {token : Token} (solid : isSpace c = false)
    (scanned : ∀ rest, Stops rest → scan c (text ++ rest) = some (token, rest)) :
    CutsInto (c :: text) [token] := fun rest stops =>
  lex_cons solid (scanned rest stops)

/-- A lexeme of one character in front. -/
theorem CutsInto.cons {c : Char} {text : List Char} {token : Token} {tokens : List Token}
    (solid : isSpace c = false) (scanned : ∀ rest, scan c rest = some (token, rest))
    (behind : CutsInto text tokens) : CutsInto (c :: text) (token :: tokens) := by
  intro rest stops
  rw [List.cons_append, lex_cons solid (scanned _), behind rest stops, Option.map_map]
  rfl

theorem CutsInto.append {text later : List Char} {tokens further : List Token}
    (first : CutsInto text tokens) (stops : Stops later) (second : CutsInto later further) :
    CutsInto (text ++ later) (tokens ++ further) := by
  intro rest stop
  rw [List.append_assoc, first _ (stops.append stop), second rest stop, Option.map_map]
  congr 1
  funext behind
  exact (List.append_assoc tokens further behind).symm

theorem CutsInto.lex_eq {text : List Char} {tokens : List Token} (cuts : CutsInto text tokens) :
    lex text = some tokens := by
  have whole := cuts [] stops_nil
  rw [List.append_nil, lex, Option.map_some, List.append_nil] at whole
  exact whole

theorem cutsInto_quote (text : List Char) :
    CutsInto (quote text) [.string (some (String.ofList text))] := by
  refine .single (by decide) fun rest _ => ?_
  rw [List.append_assoc]
  exact scan_quote text rest

theorem cutsInto_boolText (value : Bool) : CutsInto (boolText value) [.bool value] := by
  cases value with
  | false => exact .single (by decide) fun rest _ => rfl
  | true => exact .single (by decide) fun rest _ => rfl

theorem cutsInto_number {n : Number} (integral : n.Integral) :
    CutsInto n.text [.number (some n)] := by
  cases n with
  | double => exact integral.elim
  | int value =>
    intro rest stops
    obtain ⟨c, text, first, solid, scanned⟩ := scan_signedDecimal integral stops
    rw [Number.text, first, List.cons_append, lex_cons solid scanned]
    rfl

end Token

end FormatConformance.Json
