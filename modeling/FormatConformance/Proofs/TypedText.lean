import FormatConformance.CommandLine.Execution
import FormatConformance.Proofs.Text.Trimming

/-!
# Text arguments typed back

White space around what is typed for an argument does not count, and a text argument is otherwise
taken as it stands. So of all texts that a case can have just those without white space at their
ends can be typed, and only the cases with such a text can be probed (`typed_iff_unpadded`). Cases
are generated over an alphabet with white space in it, so others occur too (`not_typed_of_padded`).
-/

namespace FormatConformance.Argument

open CommandLine (ProbeOptions probedCase?)

theorem readTrimmed_entryPoint {entry : EntryPoint} {text : List Char} {a : Argument}
    (read_eq : readTrimmed entry text = .ok a) : a.entryPoint = entry := by
  cases entry with
  | nothing =>
    simp only [readTrimmed] at read_eq
    split at read_eq <;> cases read_eq
    rfl
  | int =>
    simp only [readTrimmed] at read_eq
    split at read_eq <;> cases read_eq
    rfl
  | single =>
    simp only [readTrimmed] at read_eq
    split at read_eq
    · split at read_eq <;> cases read_eq
      rfl
    · split at read_eq <;> cases read_eq
      rfl
  | double =>
    simp only [readTrimmed] at read_eq
    split at read_eq
    · cases read_eq
      rfl
    · split at read_eq <;> cases read_eq
      rfl
  | text =>
    cases read_eq
    rfl

/-- What is read for an entry point is an argument of that entry point. -/
theorem entryPoint_of_read {entry : EntryPoint} {typed : String} {a : Argument}
    (read_eq : read entry typed = .ok a) : a.entryPoint = entry := by
  rw [read] at read_eq
  cases trimmed : readTrimmed entry (Text.trim typed.toList) with
  | error fault => simp [trimmed] at read_eq
  | ok b =>
    obtain rfl : b = a := by simpa [trimmed] using read_eq
    exact readTrimmed_entryPoint trimmed

theorem read_text (typed : String) :
    read .text typed = .ok (.text (String.ofList (Text.trim typed.toList))) :=
  rfl

theorem read_text_of_unpadded {s : String} (unpadded : Text.Unpadded s.toList) :
    read .text s = .ok (.text s) := by
  rw [read_text, Text.trim_of_unpadded unpadded, String.ofList_toList]

theorem unpadded_of_read_text {typed s : String} (read_eq : read .text typed = .ok (.text s)) :
    Text.Unpadded s.toList := by
  obtain rfl : String.ofList (Text.trim typed.toList) = s := by
    simpa [read_text] using read_eq
  rw [String.toList_ofList]
  exact Text.unpadded_trim typed.toList

/-- A probed case has the argument that its value is read as, and its other parts as they stand. -/
theorem probedCase?_eq_ok_iff {o : ProbeOptions} {c : Case} :
    probedCase? o = .ok c ↔
      ∃ entry argument, EntryPoint.read? o.entry = some entry ∧ read entry o.value = .ok argument ∧
        c = ⟨o.before, o.specifier, o.after, argument⟩ := by
  rw [probedCase?]
  cases named : EntryPoint.read? o.entry with
  | none => simp
  | some entry =>
    cases typed : read entry o.value with
    | error message => simp [typed]
    | ok argument => simp [typed, eq_comm]

theorem unpadded_of_probed {o : ProbeOptions} {before specifier after s : String}
    (probed : probedCase? o = .ok ⟨before, specifier, after, .text s⟩) :
    Text.Unpadded s.toList := by
  obtain ⟨entry, argument, -, read_eq, same⟩ := probedCase?_eq_ok_iff.1 probed
  obtain rfl : Argument.text s = argument := congrArg Case.argument same
  obtain rfl : EntryPoint.text = entry := entryPoint_of_read read_eq
  exact unpadded_of_read_text read_eq

/-! ## The texts that can be typed -/

/-- A text can be typed as an argument, and a case with that text can be probed, just when the text
has no white space at its ends; then it is typed as it stands. -/
theorem typed_iff_unpadded (s : String) :
    ((∃ typed, read .text typed = .ok (.text s)) ↔ Text.Unpadded s.toList) ∧
    (read .text s = .ok (.text s) ↔ Text.Unpadded s.toList) ∧
    ∀ before specifier after,
      (∃ o, probedCase? o = .ok ⟨before, specifier, after, .text s⟩) ↔
        Text.Unpadded s.toList := by
  refine ⟨⟨fun ⟨_, read_eq⟩ => unpadded_of_read_text read_eq,
    fun unpadded => ⟨s, read_text_of_unpadded unpadded⟩⟩,
    ⟨unpadded_of_read_text, read_text_of_unpadded⟩, fun before specifier after => ⟨?_, ?_⟩⟩
  · -- The other parts of a probed case are taken as they stand and put no condition on it.
    rintro ⟨o, probed⟩
    exact unpadded_of_probed probed
  · intro unpadded
    have named : EntryPoint.read? "string" = some .text := by decide +kernel
    exact ⟨⟨"string", s, specifier, before, after⟩, probedCase?_eq_ok_iff.2
      ⟨.text, .text s, named, read_text_of_unpadded unpadded, rfl⟩⟩

/-- The words from which a case with a padded text is drawn. -/
def paddedTape : Random.Tape := fun position =>
  [0, 0, 0, 2, 0, 94, 0, 10].getD position 0

/-- A generated text of printable characters that no typed text is read as, in a case that no probe
gives: the white space at its front is lost. -/
theorem not_typed_of_padded :
    (Generation.input .default .text).value paddedTape = ⟨"", "", "", .text " a"⟩ ∧
    (∀ c ∈ " a".toList, c ∈ Alphabet.printable) ∧
    (¬∃ typed, read .text typed = .ok (.text " a")) ∧
    (¬∃ o, probedCase? o = .ok ⟨"", "", "", .text " a"⟩) ∧
    read .text " a" = .ok (.text "a") := by
  -- The blank at the front is a character of the alphabet, and no typed text keeps it.
  have padded : ¬Text.Unpadded " a".toList := fun unpadded =>
    absurd (unpadded.1 ' ' rfl) (by decide)
  have shown : " a".toList.all Alphabet.printable.contains := by decide +kernel
  refine ⟨by decide +kernel, by simpa using List.all_eq_true.1 shown, ?_, ?_, by decide +kernel⟩
  · rintro ⟨typed, read_eq⟩
    exact padded (unpadded_of_read_text read_eq)
  · rintro ⟨o, probed⟩
    exact padded (unpadded_of_probed probed)

end FormatConformance.Argument
