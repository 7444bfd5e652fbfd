/-!
# Parts of texts

Whether one list stands somewhere in another, for characters and for bytes.
-/

namespace FormatConformance.Text

/-- Whether a list stands somewhere in another without a gap. -/
def occursIn {α : Type} [BEq α] (part : List α) : List α → Bool
  | [] => part.isEmpty
  | a :: rest => part.isPrefixOf (a :: rest) || occursIn part rest

theorem occursIn_iff {α : Type} [BEq α] [LawfulBEq α] {part text : List α} :
    occursIn part text = true ↔ part <:+: text := by
  induction text with
  | nil => simp [occursIn]
  | cons a rest ih => simp [occursIn, ih, List.infix_cons_iff]

end FormatConformance.Text
