import FormatConformance.Case
import FormatConformance.Proofs.Text.Quoting

/-!
# The line that replays a case

The line names the template in quotes and then the argument in one of five notations. Which notation
it is shows at the end of the argument, by the last character and the width of a bit pattern
(`entryOf_literal`), and within one notation different arguments have different texts
(`literal_injective`). For a floating point value only the pattern behind it counts, so nothing
depends on how its decimal is chosen. As quoted text says where it ends, the line and the record of
a case both give back its template and its argument to the last bit
(`replay_eq_iff_and_record_eq_iff`).
-/

namespace FormatConformance

open Numeral (digitChar decimal hexPattern paddedHex signedDecimal exists_digit_of_mem
  exists_digit_of_mem_paddedHex)

namespace Argument

/-! ## The end of an argument -/

/-- The entry point whose notation a text is in, told from the end of the text. -/
def entryOf (text : List Char) : EntryPoint :=
  match text.reverse with
  | [] => .nothing
  | '"' :: _ => .text
  | '/' :: '*' :: ' ' :: rest => if rest[8]? = some 'x' then .single else .double
  | _ => .int

theorem signedDecimal_ends (value : Int) :
    ∃ before, ∃ d < 10, signedDecimal value = before ++ [digitChar d] := by
  have ends (n : Nat) : ∃ before, ∃ d < 10, decimal n = before ++ [digitChar d] := by
    have last := List.getLast_mem (Numeral.digits_ne_nil 10 n)
    obtain ⟨d, small, same⟩ := exists_digit_of_mem (by decide) last
    exact ⟨_, d, small, same ▸ (List.dropLast_concat_getLast _).symm⟩
  cases value with
  | ofNat n => exact ends n
  | negSucc n =>
    obtain ⟨before, d, small, text⟩ := ends (n + 1)
    exact ⟨'-' :: before, d, small, by rw [signedDecimal, text, List.cons_append]⟩

/-- A bit pattern stands right before the last three characters. -/
theorem reverse_patternComment (before : List Char) (width bits : Nat) :
    (before ++ patternComment width bits).reverse =
      '/' :: '*' :: ' ' ::
        ((paddedHex width bits).reverse ++ 'x' :: ("0 */ ".toList ++ before.reverse)) := by
  simp [patternComment, hexPattern]

theorem entryOf_patternComment {width bits : Nat} (wide : 8 ≤ width) (fits : bits < 16 ^ width)
    (before : List Char) :
    entryOf (before ++ patternComment width bits) = if width = 8 then .single else .double := by
  have length : (paddedHex width bits).reverse.length = width := by
    rw [List.length_reverse, Numeral.length_paddedHex (by omega) fits]
  have mark : ((paddedHex width bits).reverse ++
      'x' :: ("0 */ ".toList ++ before.reverse))[8]? = some 'x' ↔ width = 8 := by
    -- Behind eight digits stands the mark, and behind sixteen another digit.
    by_cases narrow : width = 8
    · rw [List.getElem?_append_right (by omega), length, narrow]
      simp
    · have inside : 8 < (paddedHex width bits).reverse.length := by omega
      have digit : ∀ d < 16, digitChar d ≠ 'x' := by decide
      obtain ⟨d, small, same⟩ := exists_digit_of_mem_paddedHex
        (List.mem_reverse.1 (List.getElem_mem inside))
      rw [List.getElem?_append_left inside, List.getElem?_eq_getElem inside, same]
      simp [narrow, digit d small]
  rw [entryOf, reverse_patternComment]
  simp only [mark]

theorem entryOf_literal (a : Argument) : entryOf a.literal = a.entryPoint := by
  cases a with
  | nothing => rfl
  | int value =>
    obtain ⟨before, d, small, text⟩ := signedDecimal_ends value.toInt
    -- A decimal ends in a digit, which ends neither a text nor a comment.
    have other : ∀ d < 10, digitChar d ≠ '"' ∧ digitChar d ≠ '/' := by decide
    rw [literal, text, entryOf, List.reverse_append, List.reverse_singleton, List.singleton_append]
    split
    · next none => cases none
    · next same => exact absurd (List.cons.inj same).1 (other d small).1
    · next same => exact absurd (List.cons.inj same).1 (other d small).2
    · rfl
  | single bits =>
    rw [literal, entryOf_patternComment le_rfl bits.toNat_lt]
    rfl
  | double bits =>
    rw [literal, entryOf_patternComment (by decide) bits.toNat_lt]
    rfl
  | text value =>
    rw [literal, entryOf, Text.Quoted.quote, List.reverse_cons, List.reverse_append]
    rfl

/-! ## Different arguments have different texts

The end of a text tells which form of argument it is of, and each form has a writer that is known to
be injective. -/

theorem bits_eq_of_patternComment {width m n : Nat} (some_width : 0 < width)
    (m_fits : m < 16 ^ width) (n_fits : n < 16 ^ width) {before before' : List Char}
    (same : before ++ patternComment width m = before' ++ patternComment width n) : m = n := by
  have length (k : Nat) (fits : k < 16 ^ width) :
      (patternComment width k).length = width + 9 := by
    simp [patternComment, hexPattern, Numeral.length_paddedHex some_width fits]
  have comment : patternComment width m = patternComment width n :=
    (List.append_inj' same ((length m m_fits).trans (length n n_fits).symm)).2
  have pattern : paddedHex width m = paddedHex width n := by
    simpa [patternComment, hexPattern] using comment
  exact Numeral.paddedHex_injective width pattern

theorem literal_injective : Function.Injective literal := by
  intro a b same
  have entry : a.entryPoint = b.entryPoint := by
    rw [← entryOf_literal, ← entryOf_literal, same]
  -- With the same entry point both are of one form.
  cases a <;> cases b <;> cases entry
  case nothing.nothing => rfl
  case int.int v w => rw [Int32.toInt_inj.1 (Numeral.signedDecimal_injective same)]
  case single.single v w =>
    rw [UInt32.toNat_inj.1 (bits_eq_of_patternComment (by decide) v.toNat_lt w.toNat_lt same)]
  case double.double v w =>
    rw [UInt64.toNat_inj.1 (bits_eq_of_patternComment (by decide) v.toNat_lt w.toNat_lt same)]
  case text.text v w => rw [String.toList_inj.1 (Text.Quoted.quote_injective same)]

end Argument

/-! ## The line and the record of a case -/

namespace Case

/-- A quoted template says where it ends, so the line falls into its template and its argument. -/
theorem same_of_replay {c d : Case} (same : c.replay = d.replay) :
    c.template = d.template ∧ c.argument = d.argument := by
  have line : Text.Quoted.quote c.templateChars ++
        (".format(".toList ++ (c.argument.literal ++ [')'])) =
      Text.Quoted.quote d.templateChars ++
        (".format(".toList ++ (d.argument.literal ++ [')'])) := by
    simpa only [List.append_assoc] using String.ofList_injective same
  obtain ⟨template, behind⟩ := Text.Quoted.quote_append_inj line
  have argument : c.argument.literal = d.argument.literal :=
    List.append_cancel_right (List.append_cancel_left behind)
  exact ⟨congrArg String.ofList template, Argument.literal_injective argument⟩

theorem same_of_record {c d : Case} (same : c.record = d.record) :
    c.template = d.template ∧ c.argument = d.argument := by
  obtain ⟨-, template, value⟩ := Record.mk.inj same
  exact ⟨template, Argument.literal_injective (String.ofList_injective value)⟩

/-- Two cases have the same line just when they have the same entry point, the same template and the
same argument to the last bit, and likewise for the record. -/
theorem replay_eq_iff_and_record_eq_iff (c d : Case) :
    (c.replay = d.replay ↔
      c.entryPoint = d.entryPoint ∧ c.template = d.template ∧ c.argument = d.argument) ∧
    (c.record = d.record ↔
      c.entryPoint = d.entryPoint ∧ c.template = d.template ∧ c.argument = d.argument) := by
  have entry (argument : c.argument = d.argument) : c.entryPoint = d.entryPoint :=
    congrArg Argument.entryPoint argument
  constructor
  · constructor
    · intro same
      obtain ⟨template, argument⟩ := same_of_replay same
      exact ⟨entry argument, template, argument⟩
    · rintro ⟨-, template, argument⟩
      have chars : c.templateChars = d.templateChars := String.ofList_injective template
      rw [replay, replay, chars, argument]
  · constructor
    · intro same
      obtain ⟨template, argument⟩ := same_of_record same
      exact ⟨entry argument, template, argument⟩
    · rintro ⟨entry_eq, template, argument⟩
      rw [record, record, entry_eq, template, argument]

end Case

end FormatConformance
