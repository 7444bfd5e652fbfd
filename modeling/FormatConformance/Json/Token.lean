import FormatConformance.Json.Number

/-!
# The lexemes of JSON

A text is cut into brackets, separators, literals, numbers and strings, with blanks between them.
A number beyond the range of doubles and a string with an unpaired surrogate are well formed as
lexemes but stand for nothing, which matters only to a reader that wants their value.
-/

namespace FormatConformance.Json

open FormatConformance.Numeral (digitRun)

/-- A lexeme with its value, none when it has no value. -/
inductive Token
  | openBrace
  | closeBrace
  | openBracket
  | closeBracket
  | colon
  | comma
  | null
  | bool (value : Bool)
  | number (value : Option Number)
  | string (value : Option String)
  deriving DecidableEq, Repr

namespace Token

/-- A part of a string: a character as it stands, or a code unit written in hexadecimal. -/
inductive Part
  | char (c : Char)
  | code (unit : Nat)
  deriving DecidableEq, Repr

/-- The number of a hexadecimal digit in either case. -/
def hexValue? (c : Char) : Option Nat :=
  FormatConformance.Numeral.digitValue? 16 c

/-- The code unit of four hexadecimal digits. -/
def codeUnit? (a b c d : Char) : Option Nat := do
  let a ← hexValue? a
  let b ← hexValue? b
  let c ← hexValue? c
  let d ← hexValue? d
  return ((a * 16 + b) * 16 + c) * 16 + d

/-- The character behind a backslash that stands for one character. -/
def shortEscape? : Char → Option Char
  | '"' => some '"'
  | '\\' => some '\\'
  | '/' => some '/'
  | 'b' => some '\x08'
  | 'f' => some '\x0c'
  | 'n' => some '\n'
  | 'r' => some '\r'
  | 't' => some '\t'
  | _ => none

/-- Puts a part in front of a scanned string. -/
def Part.before (part : Part) (scanned : List Part × List Char) : List Part × List Char :=
  (part :: scanned.1, scanned.2)

/-- Scans the inside of a string up to its closing quote. -/
def scanString : List Char → Option (List Part × List Char)
  | [] => none
  | '"' :: rest => some ([], rest)
  | '\\' :: 'u' :: a :: b :: c :: d :: rest =>
    match codeUnit? a b c d with
    | none => none
    | some unit => (scanString rest).map (Part.before (.code unit))
  | '\\' :: letter :: rest =>
    match shortEscape? letter with
    | none => none
    | some c => (scanString rest).map (Part.before (.char c))
  | c :: rest =>
    if c = '\\' ∨ c.toNat < 0x20 then none else (scanString rest).map (Part.before (.char c))

/-- Whether a code unit is the first half of a surrogate pair. -/
def isHighSurrogate (unit : Nat) : Bool :=
  0xd800 ≤ unit && unit ≤ 0xdbff

/-- Whether a code unit is the second half of a surrogate pair. -/
def isLowSurrogate (unit : Nat) : Bool :=
  0xdc00 ≤ unit && unit ≤ 0xdfff

/-- The characters that the parts of a string spell; none when a surrogate has no partner. -/
def spell? : List Part → Option (List Char)
  | [] => some []
  | .char c :: rest => (spell? rest).map (c :: ·)
  | .code high :: .code low :: rest =>
    if isHighSurrogate high then
      if isLowSurrogate low then
        (spell? rest).map
          (Char.ofNat (0x10000 + (high - 0xd800) * 0x400 + (low - 0xdc00)) :: ·)
      else none
    else if isLowSurrogate high then none
    else (spell? (.code low :: rest)).map (Char.ofNat high :: ·)
  | .code unit :: rest =>
    if isHighSurrogate unit || isLowSurrogate unit then none
    else (spell? rest).map (Char.ofNat unit :: ·)

/-- Digits of which there is at least one. -/
def someDigits? (text : List Char) : Option (List Char × List Char) :=
  match digitRun text with
  | ([], _) => none
  | run => some run

/-- Scans a sign that may be missing: whether it is a minus sign, and what stands behind it. -/
def scanSign : List Char → Bool × List Char
  | '-' :: rest => (true, rest)
  | '+' :: rest => (false, rest)
  | rest => (false, rest)

/-- Scans the exponent of a numeral, if there is one. -/
def scanExponent : List Char → Option (Option (Bool × List Char) × List Char)
  | [] => some (none, [])
  | c :: rest =>
    if c = 'e' ∨ c = 'E' then
      let signed := scanSign rest
      (someDigits? signed.2).map fun run => (some (signed.1, run.1), run.2)
    else some (none, c :: rest)

/-- Scans the fraction of a numeral, if there is one. -/
def scanFraction : List Char → Option (Option (List Char) × List Char)
  | '.' :: rest => (someDigits? rest).map fun run => (some run.1, run.2)
  | rest => some (none, rest)

/-- Whether a run of digits starts with a zero that is not the only digit. -/
def hasLeadingZero : List Char → Bool
  | '0' :: _ :: _ => true
  | _ => false

/-- Scans a numeral without sign. The whole part has no leading zero. -/
def scanMagnitude (negative : Bool) (text : List Char) : Option (Numeral × List Char) :=
  match someDigits? text with
  | none => none
  | some (whole, rest) =>
    if hasLeadingZero whole then none
    else
      match scanFraction rest with
      | none => none
      | some (fraction, rest) =>
        (scanExponent rest).map fun e => (⟨negative, whole, fraction, e.1⟩, e.2)

/-- Scans a numeral. -/
def scanNumeral : List Char → Option (Numeral × List Char)
  | '-' :: rest => scanMagnitude true rest
  | text => scanMagnitude false text

/-- What is left of a text behind a word at its start. -/
def behind? : List Char → List Char → Option (List Char)
  | [], text => some text
  | _ :: _, [] => none
  | w :: word, c :: text => if w = c then behind? word text else none

/-- Scans the lexeme that starts with a character. -/
def scan (c : Char) (rest : List Char) : Option (Token × List Char) :=
  match c with
  | '\x7b' => some (.openBrace, rest)
  | '\x7d' => some (.closeBrace, rest)
  | '[' => some (.openBracket, rest)
  | ']' => some (.closeBracket, rest)
  | ':' => some (.colon, rest)
  | ',' => some (.comma, rest)
  | 'n' => (behind? ['u', 'l', 'l'] rest).map (.null, ·)
  | 't' => (behind? ['r', 'u', 'e'] rest).map (.bool true, ·)
  | 'f' => (behind? ['a', 'l', 's', 'e'] rest).map (.bool false, ·)
  | '"' => (scanString rest).map fun (units, rest) =>
    (.string ((spell? units).map String.ofList), rest)
  | _ => (scanNumeral (c :: rest)).map fun (numeral, rest) => (.number numeral.number?, rest)

/-- The characters that may stand between lexemes. -/
def isSpace (c : Char) : Bool :=
  c = ' ' || c = '\n' || c = '\t' || c = '\r'

/-! ## Each lexeme shortens the text -/

theorem scanString_length {text parts rest} (h : scanString text = some (parts, rest)) :
    rest.length ≤ text.length := by
  fun_induction scanString text generalizing parts rest with
  | case1 => simp at h
  | case2 => simp at h; simp [h]
  | case3 => simp at h
  | case4 a b c d r unit _ ih =>
    obtain ⟨scanned, h₁, h₂⟩ := Option.map_eq_some_iff.1 h
    have := ih h₁
    simp only [Part.before, Prod.mk.injEq] at h₂
    simp only [List.length_cons, ← h₂.2]; omega
  | case5 => simp at h
  | case6 letter r _ c _ ih =>
    obtain ⟨scanned, h₁, h₂⟩ := Option.map_eq_some_iff.1 h
    have := ih h₁
    simp only [Part.before, Prod.mk.injEq] at h₂
    simp only [List.length_cons, ← h₂.2]; omega
  | case7 => simp at h
  | case8 c r _ _ _ _ ih =>
    obtain ⟨scanned, h₁, h₂⟩ := Option.map_eq_some_iff.1 h
    have := ih h₁
    simp only [Part.before, Prod.mk.injEq] at h₂
    simp only [List.length_cons, ← h₂.2]; omega

theorem length_dropWhile_le (p : Char → Bool) (text : List Char) :
    (text.dropWhile p).length ≤ text.length :=
  (List.dropWhile_suffix p).length_le

theorem someDigits?_length {text run} (h : someDigits? text = some run) :
    run.2.length < text.length := by
  cases text with
  | nil => simp [someDigits?, digitRun] at h
  | cons c text =>
    by_cases digit : c.isDigit
    · simp only [someDigits?, digitRun, List.takeWhile_cons, List.dropWhile_cons, digit, if_true,
        Option.some.injEq] at h
      subst h
      exact Nat.lt_succ_of_le (length_dropWhile_le _ _)
    · simp [someDigits?, digitRun, digit] at h

theorem scanSign_length (text : List Char) : (scanSign text).2.length ≤ text.length := by
  unfold scanSign
  split <;> simp

theorem scanFraction_length {text scanned} (h : scanFraction text = some scanned) :
    scanned.2.length ≤ text.length := by
  unfold scanFraction at h
  split at h
  · obtain ⟨run, h₁, rfl⟩ := Option.map_eq_some_iff.1 h
    have := someDigits?_length h₁
    simp only [List.length_cons]; omega
  · simp only [Option.some.injEq] at h
    simp [← h]

theorem scanExponent_length {text scanned} (h : scanExponent text = some scanned) :
    scanned.2.length ≤ text.length := by
  cases text with
  | nil => simp only [scanExponent, Option.some.injEq] at h; simp [← h]
  | cons c text =>
    simp only [scanExponent] at h
    split at h
    · obtain ⟨run, h₁, rfl⟩ := Option.map_eq_some_iff.1 h
      have := someDigits?_length h₁
      have := scanSign_length text
      simp only [List.length_cons]; omega
    · simp only [Option.some.injEq] at h
      simp [← h]

theorem scanMagnitude_length {negative text scanned}
    (h : scanMagnitude negative text = some scanned) : scanned.2.length < text.length := by
  unfold scanMagnitude at h
  split at h
  · simp at h
  · rename_i h₁
    split at h
    · simp at h
    · split at h
      · simp at h
      · rename_i h₂
        obtain ⟨e, h₃, rfl⟩ := Option.map_eq_some_iff.1 h
        have := someDigits?_length h₁
        have := scanFraction_length h₂
        have := scanExponent_length h₃
        simp only at *
        omega

theorem scanNumeral_length {text scanned} (h : scanNumeral text = some scanned) :
    scanned.2.length < text.length := by
  unfold scanNumeral at h
  split at h
  · have := scanMagnitude_length h
    simp only [List.length_cons]; omega
  · exact scanMagnitude_length h

theorem behind?_length {word text rest : List Char} (h : behind? word text = some rest) :
    rest.length ≤ text.length := by
  induction word generalizing text with
  | nil => simp only [behind?, Option.some.injEq] at h; simp [h]
  | cons w word ih =>
    cases text with
    | nil => simp [behind?] at h
    | cons c text =>
      simp only [behind?] at h
      split at h
      · exact Nat.le_succ_of_le (ih h)
      · simp at h

theorem scan_length {c rest token rest'} (h : scan c rest = some (token, rest')) :
    rest'.length ≤ rest.length := by
  unfold scan at h
  split at h
  all_goals try (simp only [Option.some.injEq, Prod.mk.injEq] at h; simp [h.2])
  all_goals simp only [Option.map_eq_some_iff, Prod.mk.injEq, Prod.exists] at h
  · obtain ⟨_, h₁, _, rfl⟩ := h; exact behind?_length h₁
  · obtain ⟨_, h₁, _, rfl⟩ := h; exact behind?_length h₁
  · obtain ⟨_, h₁, _, rfl⟩ := h; exact behind?_length h₁
  · obtain ⟨_, _, h₁, _, rfl⟩ := h; exact scanString_length h₁
  · obtain ⟨_, _, h₁, _, rfl⟩ := h
    have := scanNumeral_length h₁
    simp only [List.length_cons] at this
    omega

/-- The lexemes of a text, none when some part of it is no lexeme. -/
def lex (text : List Char) : Option (List Token) :=
  match text with
  | [] => some []
  | c :: rest =>
    if isSpace c then lex rest
    else
      match _h : scan c rest with
      | none => none
      | some (token, rest') => (lex rest').map (token :: ·)
termination_by text.length
decreasing_by
  · simp
  · have := scan_length _h
    simp only [List.length_cons]; omega

end Token

end FormatConformance.Json
