import FormatConformance.Ieee.Shortest
import FormatConformance.Proofs.Numeral

/-!
# The characters of numbers

A number is written with digits, signs, a point and the letter of the exponent, in whatever style it
is laid out; what is no finite number has a name of its own. So what is true of these characters is
true of all characters of a number (`forall_mem_text`).
-/

namespace FormatConformance.Ieee.Style

open FormatConformance.Numeral (decimal signedDecimal digitChar forall_mem_digits)

variable {P : Char → Prop} (marks : ∀ c ∈ "0123456789+-.e".toList, P c)
include marks

/-! ## Whole numbers -/

theorem forall_mem_decimal (n : Nat) : ∀ c ∈ decimal n, P c := by
  have table : ∀ d < 10, digitChar d ∈ "0123456789+-.e".toList := by decide
  exact forall_mem_digits (by decide) (fun d small => marks _ (table d small)) n

theorem forall_mem_signedDecimal (value : Int) : ∀ c ∈ signedDecimal value, P c := by
  cases value with
  | ofNat n => exact forall_mem_decimal marks n
  | negSucc n =>
    exact List.forall_mem_cons.2 ⟨marks '-' (by decide), forall_mem_decimal marks (n + 1)⟩

theorem forall_mem_zeros (count : Nat) : ∀ c ∈ List.replicate count '0', P c := by
  intro c mem
  rw [List.eq_of_mem_replicate mem]
  exact marks '0' (by decide)

/-! ## Layouts -/

section Digits

variable {digits : List Char} (each : ∀ c ∈ digits, P c)
include each

theorem forall_mem_positional (place : Int) : ∀ c ∈ positional digits place, P c := by
  have point := marks '.' (by decide)
  have zero := marks '0' (by decide)
  unfold positional
  split_ifs with fraction
  · simp only [List.forall_mem_cons, List.forall_mem_append]
    exact ⟨zero, point, forall_mem_zeros marks _, each⟩
  · simp only [List.forall_mem_cons, List.forall_mem_append]
    refine ⟨⟨fun c mem => each c (List.mem_of_mem_take mem), forall_mem_zeros marks _⟩, point, ?_⟩
    split_ifs
    · exact List.forall_mem_singleton.2 zero
    · exact fun c mem => each c (List.mem_of_mem_drop mem)

theorem forall_mem_scientific (plusSign : Bool) (place : Int) :
    ∀ c ∈ scientific plusSign digits place, P c := by
  unfold scientific
  simp only [List.forall_mem_append, List.forall_mem_cons]
  refine ⟨?_, marks 'e' (by decide), ?_, forall_mem_signedDecimal marks _⟩
  · -- There is a point only where something stands behind it.
    split
    · simp
    · exact each
    · obtain ⟨first, rest⟩ := List.forall_mem_cons.1 each
      exact List.forall_mem_cons.2 ⟨first, List.forall_mem_cons.2 ⟨marks '.' (by decide), rest⟩⟩
  · split
    · exact List.forall_mem_singleton.2 (marks '+' (by decide))
    · simp

end Digits

theorem forall_mem_decimalText (s : Style) (d : Decimal) : ∀ c ∈ s.decimalText d, P c := by
  simp only [decimalText]
  split_ifs with nothing
  · have zero := marks '0' (by decide)
    simp only [List.forall_mem_cons]
    exact ⟨zero, marks '.' (by decide), zero, by simp⟩
  · exact forall_mem_positional marks (forall_mem_decimal marks _) _
  · exact forall_mem_scientific marks (forall_mem_decimal marks _) _ _

/-- What is true of the marks, and of the names of what is no finite number, is true of every
character of a number. -/
theorem forall_mem_text {s : Style} (names : ∀ c ∈ s.nan.toList ++ s.infinity.toList, P c)
    (l : Layout) (bits : Nat) : ∀ c ∈ s.text l bits, P c := by
  obtain ⟨nan, infinity⟩ := List.forall_mem_append.1 names
  have signed (negative : Bool) {text : List Char} (each : ∀ c ∈ text, P c) :
      ∀ c ∈ (if negative then '-' :: text else text), P c := by
    split
    · exact List.forall_mem_cons.2 ⟨marks '-' (by decide), each⟩
    · exact each
  unfold text
  split
  · exact nan
  · exact signed _ infinity
  · exact signed _ (forall_mem_decimalText marks s _)

end FormatConformance.Ieee.Style
