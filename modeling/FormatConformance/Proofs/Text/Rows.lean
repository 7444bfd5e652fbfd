/-!
# Rows of text

A text that is made of rows, each with a line feed behind it. When no row holds a line feed, cutting
the text at its line feeds gives the rows again, and behind them the rest of the text, which is
empty when there is nothing else.
-/

namespace FormatConformance.Text

/-- Rows with a line feed behind each. -/
def unrows (rows : List (List Char)) : List Char :=
  rows.flatMap (· ++ ['\n'])

theorem unrows_cons (row : List Char) (rows : List (List Char)) :
    unrows (row :: rows) = row ++ '\n' :: unrows rows := by
  rw [unrows, List.flatMap_cons, List.append_assoc]
  rfl

theorem unrows_append (front back : List (List Char)) :
    unrows (front ++ back) = unrows front ++ unrows back :=
  List.flatMap_append

theorem splitOn_unrows_append {rows : List (List Char)} (whole : ∀ row ∈ rows, '\n' ∉ row)
    (rest : List Char) : (unrows rows ++ rest).splitOn '\n' = rows ++ rest.splitOn '\n' := by
  induction rows with
  | nil => rfl
  | cons row later ih =>
    obtain ⟨here, others⟩ := List.forall_mem_cons.1 whole
    rw [unrows_cons, List.append_assoc, List.cons_append,
      List.splitOn_append_cons_self_of_not_mem here, ih others, List.cons_append]

theorem splitOn_unrows {rows : List (List Char)} (whole : ∀ row ∈ rows, '\n' ∉ row) :
    (unrows rows).splitOn '\n' = rows ++ [[]] := by
  have nothing := splitOn_unrows_append whole []
  rwa [List.append_nil] at nothing

end FormatConformance.Text
