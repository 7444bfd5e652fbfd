import FormatConformance.Outcome
import FormatConformance.Proofs.Text.Escaping

/-!
# Outcomes told apart

An outcome is kept as a record of texts and shown on one line. Either form gives the outcome back
(`ofRecord?_record`, `ofText?_text`): which of the two kinds it is can be told from a field or from
the first letter, and a payload is read out of its text in printable ASCII. So different outcomes
have different records and different lines.
-/

namespace FormatConformance.Outcome

open Text.ByteEscape (Printable escape unescape? unescape?_escape printable_of_mem_escape)

/-! ## Records -/

/-- The outcome that a record was made of. -/
def ofRecord? (r : Record) : Option Outcome :=
  match r.payload with
  | some text => (unescape? text.toList).map success
  | none => r.reason.map failure

theorem ofRecord?_record (o : Outcome) : ofRecord? o.record = some o := by
  cases o with
  | success payload =>
    show (unescape? (String.ofList (escape payload)).toList).map success = _
    rw [String.toList_ofList, unescape?_escape]
    rfl
  | failure reason => rfl

theorem record_injective : Function.Injective record := by
  intro x y same
  have read : some x = some y := by
    rw [← ofRecord?_record x, same, ofRecord?_record y]
  exact Option.some.inj read

/-! ## Lines -/

theorem toList_text_success (payload : Bytes) :
    (success payload).text.toList =
      'S' :: ("uccess(\"".toList ++ (escape payload ++ ['"', ')'])) := by
  simp [text]

theorem toList_text_failure (reason : String) :
    (failure reason).text.toList = 'F' :: ("ailure(".toList ++ (reason.toList ++ [')'])) := by
  simp [text]

/-- The outcome that a line shows, told by its first letter. -/
def ofText? (text : String) : Option Outcome :=
  -- The quotes and the brackets stand at fixed places, so nothing is searched for in the text.
  match text.toList with
  | 'S' :: rest => (unescape? (rest.drop 8).dropLast.dropLast).map success
  | 'F' :: rest => some (failure (String.ofList (rest.drop 7).dropLast))
  | _ => none

theorem ofText?_text (o : Outcome) : ofText? o.text = some o := by
  cases o with
  | success payload =>
    -- Only the closing marks are taken off, so quotes and brackets inside do no harm.
    have inside : ("uccess(\"".toList ++ (escape payload ++ ['"', ')'])).drop 8 =
        (escape payload ++ ['"']) ++ [')'] := by simp
    rw [ofText?, toList_text_success]
    simp only [inside, List.dropLast_concat, unescape?_escape, Option.map_some]
  | failure reason =>
    have inside : ("ailure(".toList ++ (reason.toList ++ [')'])).drop 7 =
        reason.toList ++ [')'] := by simp
    rw [ofText?, toList_text_failure]
    simp only [inside, List.dropLast_concat, String.ofList_toList]

theorem text_injective : Function.Injective text := by
  intro x y same
  have read : some x = some y := by
    rw [← ofText?_text x, same, ofText?_text y]
  exact Option.some.inj read

/-! ## Both forms -/

/-- Two outcomes are the same just when their records are, and just when their lines are. The record
and the line of a success show its payload as the same text, which is printable ASCII throughout and
is read back as the payload, whatever its bytes. -/
theorem record_and_text_faithful (x y : Outcome) :
    (x.record = y.record ↔ x = y) ∧
    (x.text = y.text ↔ x = y) ∧
    ∀ payload, ∃ shown : String,
      (success payload).record = ⟨"success", some shown, none⟩ ∧
      (success payload).text = "Success(\"" ++ shown ++ "\")" ∧
      (∀ c ∈ shown.toList, Printable c) ∧
      unescape? shown.toList = some payload := by
  refine ⟨record_injective.eq_iff, text_injective.eq_iff, fun payload => ?_⟩
  refine ⟨String.ofList (escape payload), rfl, rfl, ?_, ?_⟩
  · rw [String.toList_ofList]
    intro c mem
    exact printable_of_mem_escape mem
  · rw [String.toList_ofList, unescape?_escape]

end FormatConformance.Outcome
