import FormatConformance.Proofs.Numeral
import FormatConformance.Proofs.Subject.Marshalling
import FormatConformance.Subject.Echo
import Mathlib.Data.List.TakeWhile

/-!
# The bridge is transparent

The echo library gives back what it was given, so what comes out of a bridge to it shows what the
bridge passed on. The marks that the library looks for are texts of ASCII, and it looks for them
among bytes: that this is the same as looking among characters is `Text.utf8_infix_utf8_iff`. What
it returns ends at the first NUL, and there is none (`Echo.takeWhile_echo`), so nothing is cut off.
Together every outcome is a function of the template and the argument as texts (`load_echo`).
-/

namespace FormatConformance.Subject

open Text (bytesOf utf8)

namespace Echo

/-- A bit pattern in hexadecimal, filled up with zeros to a width. -/
def hexDigits (width n : Nat) : List Char :=
  (Nat.toDigits 16 n).leftpad width '0'

/-- What stands behind the template when an argument is given back: integers in decimal, bit
patterns in eight or sixteen digits, texts as they are. -/
def shown : Argument → List Char
  | .nothing => []
  | .int value => '|' :: (toString value.toInt).toList
  | .single bits => '|' :: '0' :: 'x' :: hexDigits 8 bits.toNat
  | .double bits => '|' :: '0' :: 'x' :: hexDigits 16 bits.toNat
  | .text value => '|' :: value.toList

theorem length_hexDigits {width n : Nat} (some_width : 0 < width) (fits : n < 16 ^ width) :
    (hexDigits width n).length = width := by
  rw [hexDigits, ← Numeral.paddedHex_eq_leftpad, Numeral.length_paddedHex some_width fits]

/-! ## What the library gives back -/

theorem echo_ofArgument (template : String) (argument : Argument) :
    echo (bytesOf template) (.ofArgument argument) = bytesOf template ++ utf8 (shown argument) := by
  have bar (text : List Char) : utf8 ('|' :: text) = 0x7c :: utf8 text :=
    Text.utf8_cons_of_ascii (by decide) text
  cases argument with
  | nothing => simp [echo, argumentBytes?, shown, Native.ofArgument]
  | int value =>
    rw [shown, bar, ← Numeral.signedDecimal_eq_toString]
    rfl
  | single bits =>
    rw [shown, bar, hexDigits, ← Numeral.paddedHex_eq_leftpad]
    rfl
  | double bits =>
    rw [shown, bar, hexDigits, ← Numeral.paddedHex_eq_leftpad]
    rfl
  | text value =>
    rw [shown, bar]
    rfl

theorem nul_not_mem_hexDigits (width n : Nat) : '\x00' ∉ hexDigits width n := by
  rw [hexDigits, ← Numeral.paddedHex_eq_leftpad]
  have digits : ∀ d < 16, Numeral.digitChar d ≠ '\x00' := by decide
  have each : ∀ c ∈ Numeral.paddedHex width n, c ≠ '\x00' :=
    Numeral.forall_mem_paddedHex digits width n
  exact fun mem => each _ mem rfl

theorem nul_not_mem_toString (value : Int) : '\x00' ∉ (toString value).toList := by
  rw [← Numeral.signedDecimal_eq_toString]
  have digits (n : Nat) : '\x00' ∉ Numeral.decimal n := by
    have other : ∀ d < 10, Numeral.digitChar d ≠ '\x00' := by decide
    have each : ∀ c ∈ Numeral.decimal n, c ≠ '\x00' :=
      Numeral.forall_mem_digits (by decide) other n
    exact fun mem => each _ mem rfl
  cases value with
  | ofNat n => exact digits n
  | negSucc n => simpa [Numeral.signedDecimal] using digits (n + 1)

theorem nul_not_mem_shown {argument : Argument}
    (clean : ∀ value, argument = .text value → '\x00' ∉ value.toList) :
    '\x00' ∉ shown argument := by
  cases argument with
  | nothing => simp [shown]
  | int value => simpa [shown] using nul_not_mem_toString value.toInt
  | single bits => simpa [shown] using nul_not_mem_hexDigits 8 bits.toNat
  | double bits => simpa [shown] using nul_not_mem_hexDigits 16 bits.toNat
  | text value => simpa [shown] using clean value rfl

/-- Nothing is cut off at a NUL. -/
theorem takeWhile_echo {entry : EntryPoint} {template : String} {argument : Argument}
    (deliverable : Deliverable entry template argument) :
    (echo (bytesOf template) (.ofArgument argument)).takeWhile (· ≠ 0) =
      bytesOf template ++ utf8 (shown argument) := by
  rw [echo_ofArgument, List.takeWhile_eq_self_iff]
  intro b mem
  have clean : 0 ∉ bytesOf template ++ utf8 (shown argument) := by
    rw [bytesOf, ← Text.utf8_append, Text.zero_mem_utf8_iff, List.mem_append, not_or]
    exact ⟨deliverable.template_clean, nul_not_mem_shown deliverable.value_clean⟩
  have nonzero : b ≠ 0 := fun zero => clean (zero ▸ mem)
  simpa using nonzero

/-! ## The marks -/

theorem occursIn_rejectMark (template : String) :
    Text.occursIn rejectMark (bytesOf template) = decide ('!' ∈ template.toList) := by
  have found : Text.occursIn rejectMark (bytesOf template) = true ↔ '!' ∈ template.toList := by
    rw [Text.occursIn_iff, rejectMark, bytesOf, bytesOf,
      Text.utf8_infix_utf8_iff (by simp [Text.Ascii])]
    exact List.singleton_infix_iff _ _
  rw [Bool.eq_iff_iff, found, decide_eq_true_iff]

theorem occursIn_nullMark (template : String) :
    Text.occursIn nullMark (bytesOf template) = true ↔ "~null~".toList <:+: template.toList := by
  rw [Text.occursIn_iff, nullMark, bytesOf, bytesOf,
    Text.utf8_infix_utf8_iff (by simp [Text.Ascii])]

end Echo

namespace Bridge

/-! ## Through the bridge -/

theorem load_of_image {openImage : String → Except String Image} {path : String} {image : Image}
    (named : '\x00' ∉ path.toList) (found : openImage path = .ok image)
    (complete : ∀ symbol ∈ requiredSymbols, image.exports symbol) :
    load openImage path = .ok ⟨path, image.library⟩ := by
  have nothing_missing : (requiredSymbols.find? fun symbol => !image.exports symbol) = none := by
    rw [List.find?_eq_none]
    intro symbol mem
    simp [complete symbol mem]
  have clean : ¬path.toList.contains '\x00' := by simpa using named
  rw [load, if_neg clean, found]
  simp only [nothing_missing]

variable {b : Bridge} {entry : EntryPoint} {template : String} {argument : Argument}

theorem probe_of_echo (echoes : b.library = Echo.library)
    (deliverable : Deliverable entry template argument) :
    b.probe entry template argument = .ok (decide ('!' ∈ template.toList)) := by
  rw [probe, marshal_eq_ok_iff.2 ⟨deliverable, rfl⟩, echoes, ← Echo.occursIn_rejectMark]
  rfl

/-- What the bridge makes of an input, by the marks in the template. -/
theorem invoke_of_echo (echoes : b.library = Echo.library)
    (deliverable : Deliverable entry template argument) :
    b.invoke entry template argument = .ok (
      if '!' ∈ template.toList then .failure (entry.errorSymbol ++ " reported an error")
      else if "~null~".toList <:+: template.toList then .failure (entry.symbol ++ " returned null")
      else .success (bytesOf template ++ utf8 (Echo.shown argument))) := by
  have marshalled := marshal_eq_ok_iff.2 ⟨deliverable, rfl⟩
  rw [invoke, marshalled, Except.map, call, echoes]
  simp only [Echo.library, Echo.occursIn_rejectMark, decide_eq_true_eq]
  congr 1
  refine if_congr Iff.rfl rfl ?_
  -- Without the mark the library renders its echo, and none of its bytes is a NUL.
  by_cases null : "~null~".toList <:+: template.toList
  · rw [if_pos (Echo.occursIn_nullMark template |>.2 null), if_pos null]
  · have unmarked : ¬Text.occursIn Echo.nullMark (bytesOf template) = true := fun marked =>
      null ((Echo.occursIn_nullMark template).1 marked)
    rw [if_neg unmarked, if_neg null, ← Echo.takeWhile_echo deliverable]

theorem errorSymbol_ne (entry : EntryPoint) :
    entry.errorSymbol ++ " reported an error" ≠ entry.symbol ++ " returned null" := by
  cases entry <;> decide

/-- The bridge to the echo library. For every entry point and every template and argument that the
calling convention can carry, the probe says whether the template has an exclamation mark. The
outcome is that the probe reported an error just when it does; that the formatter returned null just
when it does not and `~null~` stands in the template; and otherwise the template and what is shown
of the argument, byte for byte. Bit patterns have eight and sixteen digits. -/
theorem load_echo {openImage : String → Except String Image} {path : String}
    (named : '\x00' ∉ path.toList) (found : openImage path = .ok Echo.image)
    (shape : argument.entryPoint = entry) (template_clean : '\x00' ∉ template.toList)
    (value_clean : ∀ value, argument = .text value → '\x00' ∉ value.toList) :
    ∃ b, load openImage path = .ok b ∧
      b.probe entry template argument = .ok (decide ('!' ∈ template.toList)) ∧
      (b.invoke entry template argument =
          .ok (.failure (entry.errorSymbol ++ " reported an error")) ↔ '!' ∈ template.toList) ∧
      (b.invoke entry template argument = .ok (.failure (entry.symbol ++ " returned null")) ↔
        '!' ∉ template.toList ∧ "~null~".toList <:+: template.toList) ∧
      (∀ payload, b.invoke entry template argument = .ok (.success payload) ↔
        '!' ∉ template.toList ∧ ¬"~null~".toList <:+: template.toList ∧
          payload = bytesOf template ++ utf8 (Echo.shown argument)) ∧
      (∀ bits : UInt32, (Echo.hexDigits 8 bits.toNat).length = 8) ∧
      ∀ bits : UInt64, (Echo.hexDigits 16 bits.toNat).length = 16 := by
  have complete : ∀ symbol ∈ requiredSymbols, Echo.image.exports symbol :=
    List.all_eq_true.1
      (by decide +kernel : requiredSymbols.all Echo.symbols.contains = true)
  have deliverable : Deliverable entry template argument := ⟨shape, template_clean, value_clean⟩
  -- The two failures have different words, so neither is taken for the other.
  have apart := errorSymbol_ne entry
  refine ⟨⟨path, Echo.library⟩, load_of_image named found complete, probe_of_echo rfl deliverable,
    ?_, ?_, fun payload => ?_, fun bits => ?_, fun bits => ?_⟩
  · rw [invoke_of_echo rfl deliverable]
    split_ifs with rejected null
    · simp [rejected]
    · simpa [rejected] using apart.symm
    · simp [rejected]
  · rw [invoke_of_echo rfl deliverable]
    split_ifs with rejected null
    · simpa [rejected] using apart
    · exact iff_of_true rfl ⟨rejected, null⟩
    · exact iff_of_false (by simp) fun marked => null marked.2
  · rw [invoke_of_echo rfl deliverable]
    split_ifs with rejected null
    · simp [rejected]
    · exact iff_of_false (by simp) fun unmarked => unmarked.2.1 null
    · rw [Except.ok.injEq, Outcome.success.injEq]
      exact ⟨fun same => ⟨rejected, null, same.symm⟩, fun unmarked => unmarked.2.2.symm⟩
  · exact Echo.length_hexDigits (by decide) bits.toNat_lt
  · exact Echo.length_hexDigits (by decide) bits.toNat_lt

/-- A template and a string with characters of two and four bytes. -/
theorem load_echo_beyond_ascii :
    ∃ b, load (fun _ => .ok Echo.image) "libecho.so" = .ok b ∧
      b.invoke .text "é~null" (.text "\t😀!") =
        .ok (.success (bytesOf "é~null" ++ utf8 (Echo.shown (.text "\t😀!")))) := by
  obtain ⟨b, loaded, -, -, -, success, -⟩ := @load_echo .text "é~null" (.text "\t😀!")
    (fun _ => .ok Echo.image) "libecho.so" (by decide) rfl rfl (by decide)
    (by rintro _ ⟨⟩; decide)
  exact ⟨b, loaded, (success _).2 ⟨by decide, by decide, rfl⟩⟩

end Bridge

end FormatConformance.Subject
