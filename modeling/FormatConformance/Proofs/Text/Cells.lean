import Mathlib.Algebra.Group.Nat.Even
import Mathlib.Data.List.Basic

/-!
# Cells of a row

In a row of a table a pipe ends a cell, unless it is escaped: a backslash directly before it takes
its meaning away, when that backslash is not itself taken by one before it. So a pipe is open when
an even number of backslashes precedes it directly, which is said of its place in the row alone
(`OpenPipe`).

Whether a pipe is open hangs on the backslashes before it, so a row cannot be put together from its
cells without a thought to how they end. A text that is `Sealed` holds no open pipe and does not
end in a backslash that is still to take something. Such texts stay sealed when they are put
together, and what stands behind them is read as if it stood alone (`openPipes_append`). So a row of
sealed cells has just the pipes between them (`cells_of_sealed`).
-/

namespace FormatConformance.Text

/-- The number of backslashes that a text ends with. -/
def backslashes (text : List Char) : Nat :=
  (text.reverse.takeWhile (· = '\\')).length

/-- A pipe that an even number of backslashes directly precedes. -/
def OpenPipe (row : List Char) (place : Nat) : Prop :=
  row[place]? = some '|' ∧ Even (backslashes (row.take place))

instance (row : List Char) (place : Nat) : Decidable (OpenPipe row place) :=
  inferInstanceAs (Decidable (_ ∧ _))

/-- The places of the open pipes of a row, in order. -/
def openPipes (row : List Char) : List Nat :=
  (List.range row.length).filter (OpenPipe row ·)

/-- The row is made of the cells, a pipe in front of the first one and one behind each, and has no
other open pipes. -/
structure Cells (row : List Char) (cells : List (List Char)) : Prop where
  text : row = '|' :: cells.flatMap (· ++ ['|'])
  pipes : openPipes row = cells.scanl (fun place cell => place + cell.length + 1) 0

theorem Cells.length_openPipes {row : List Char} {cells : List (List Char)} (h : Cells row cells) :
    (openPipes row).length = cells.length + 1 := by
  rw [h.pipes, List.length_scanl]

/-! ## Open pipes of a text behind another -/

theorem even_backslashes_append {front : List Char} (even : Even (backslashes front))
    (back : List Char) : Even (backslashes (front ++ back)) ↔ Even (backslashes back) := by
  rw [backslashes, backslashes, List.reverse_append, List.takeWhile_append]
  -- The backslashes at the end reach into the front only when there is nothing else behind it, and
  -- then an even number comes to them.
  split_ifs with all_of_them
  · rw [List.length_append, ← backslashes, Nat.even_add, all_of_them]
    exact iff_true_right even
  · rfl

theorem openPipe_append_left {front : List Char} {place : Nat} (inside : place < front.length)
    (back : List Char) : OpenPipe (front ++ back) place ↔ OpenPipe front place := by
  rw [OpenPipe, OpenPipe, List.getElem?_append_left inside,
    List.take_append_of_le_length (Nat.le_of_lt inside)]

theorem openPipe_append_right {front : List Char} (even : Even (backslashes front))
    (back : List Char) (place : Nat) :
    OpenPipe (front ++ back) (front.length + place) ↔ OpenPipe back place := by
  rw [OpenPipe, OpenPipe, List.getElem?_append_right (Nat.le_add_right ..),
    Nat.add_sub_cancel_left, List.take_length_add_append, even_backslashes_append even]

/-- A text behind one that does not reach into it has its open pipes where they were. -/
theorem openPipes_append {front : List Char} (even : Even (backslashes front)) (back : List Char) :
    openPipes (front ++ back) = openPipes front ++ (openPipes back).map (front.length + ·) := by
  rw [openPipes, List.length_append, List.range_add, List.filter_append, List.filter_map]
  congr 1
  · refine List.filter_congr fun place mem => decide_eq_decide.2 ?_
    exact openPipe_append_left (List.mem_range.1 mem) back
  · refine congrArg _ (List.filter_congr fun place _ => decide_eq_decide.2 ?_)
    exact openPipe_append_right even back place

/-! ## Sealed texts -/

/-- A text without open pipes, of which nothing reaches into what stands behind it. -/
structure Sealed (text : List Char) : Prop where
  pipes : openPipes text = []
  even : Even (backslashes text)

theorem sealed_nil : Sealed [] :=
  ⟨rfl, by decide⟩

theorem Sealed.append {front back : List Char} (first : Sealed front) (second : Sealed back) :
    Sealed (front ++ back) where
  pipes := by rw [openPipes_append first.even, first.pipes, second.pipes]; rfl
  even := (even_backslashes_append first.even back).2 second.even

theorem sealed_singleton {c : Char} (backslash : c ≠ '\\') (pipe : c ≠ '|') : Sealed [c] where
  pipes := by simp [openPipes, OpenPipe, pipe]
  even := by simp [backslashes, backslash]

/-- A backslash takes the character behind it, whatever that is. -/
theorem sealed_pair (c : Char) : Sealed ['\\', c] where
  pipes := by simp [openPipes, OpenPipe, List.range_succ, backslashes]
  even := by
    by_cases backslash : c = '\\'
    · rw [backslash]
      decide
    · simp [backslashes, backslash]

theorem sealed_flatMap {α : Type} {f : α → List Char} {items : List α}
    (each : ∀ item ∈ items, Sealed (f item)) : Sealed (items.flatMap f) := by
  induction items with
  | nil => exact sealed_nil
  | cons item items ih =>
    obtain ⟨first, others⟩ := List.forall_mem_cons.1 each
    rw [List.flatMap_cons]
    exact first.append (ih others)

/-- A text without backslashes and pipes. -/
theorem sealed_of_plain {text : List Char} (plain : ∀ c ∈ text, c ≠ '\\' ∧ c ≠ '|') :
    Sealed text := by
  rw [← List.flatMap_singleton' text]
  exact sealed_flatMap fun c mem => sealed_singleton (plain c mem).1 (plain c mem).2

/-! ## Rows -/

theorem openPipes_bar {cell : List Char} (closed : Sealed cell) :
    openPipes ('|' :: cell) = [0] := by
  have bar : openPipes ['|'] = [0] := by decide
  rw [← List.singleton_append, openPipes_append (by decide), bar, closed.pipes]
  rfl

theorem even_backslashes_bar {cell : List Char} (closed : Sealed cell) :
    Even (backslashes ('|' :: cell)) := by
  have bar : Even (backslashes ['|']) := by decide
  exact (even_backslashes_append bar cell).2 closed.even

/-- The pipes of a row that begins further on. -/
theorem scanl_add (cells : List (List Char)) (shift start : Nat) :
    cells.scanl (fun place cell => place + cell.length + 1) (shift + start) =
      (cells.scanl (fun place cell => place + cell.length + 1) start).map (shift + ·) := by
  induction cells generalizing start with
  | nil => rfl
  | cons cell cells ih =>
    rw [List.scanl_cons, List.scanl_cons, List.map_cons, ← ih, Nat.add_assoc, Nat.add_assoc,
      Nat.add_assoc]

/-- A row of sealed cells has just the pipes between them. -/
theorem cells_of_sealed {cells : List (List Char)} (each : ∀ cell ∈ cells, Sealed cell) :
    Cells ('|' :: cells.flatMap (· ++ ['|'])) cells where
  text := rfl
  pipes := by
    induction cells with
    | nil => decide
    | cons cell cells ih =>
      obtain ⟨first, others⟩ := List.forall_mem_cons.1 each
      -- A bar and the first cell are sealed but for the pipe at the front, and the rest is a row
      -- again.
      have row : '|' :: (cell :: cells).flatMap (· ++ ['|']) =
          '|' :: cell ++ '|' :: cells.flatMap (· ++ ['|']) := by simp
      rw [row, openPipes_append (even_backslashes_bar first), openPipes_bar first, ih others,
        List.scanl_cons, ← scanl_add, Nat.zero_add, Nat.add_zero]
      rfl

end FormatConformance.Text
