import FormatConformance.Proofs.Diff
import FormatConformance.Proofs.Numeral
import FormatConformance.Proofs.Text.Escaping
import FormatConformance.Proofs.Text.Rows

/-!
# A diff and one side give the other side

A diff is read from its end: a marked row is kept until the row with the line number above it is
reached, and the two make up a hunk (`Shown.behind`). Rows are printable, so each ends at its line
feed and none is mistaken for another, and reading gives the very hunks that were written
(`shownHunks_render`). Between hunks the two payloads have the same lines, so the hunks and the
lines of one side give the lines of the other (`subjectLines_hunksFrom`), in either direction
(`hunksFrom_swap`). The main result, `render_lossless`, puts the two together.
-/

namespace FormatConformance.Diff

open Text (unrows)
open Text.ByteEscape (Printable escape printable_of_mem_escape unescape? unescape?_escape)

/-! ## Lines from hunks -/

/-- The lines of the subject from those of the reference, the first of which has the given number,
and the hunks from there on. -/
def subjectLines (number : Nat) : List Bytes → List Hunk → List Bytes
  | [], hunks => hunks.filterMap Hunk.subject
  | rs, [] => rs
  | r :: rs, h :: hs =>
    if h.number = number then h.subject.toList ++ subjectLines (number + 1) rs hs
    else r :: subjectLines (number + 1) rs (h :: hs)

theorem subjectLines_no_hunk (number : Nat) (rs : List Bytes) : subjectLines number rs [] = rs := by
  cases rs <;> rfl

/-- A line that no hunk is about is the same on both sides. -/
theorem subjectLines_cons_of_later {number : Nat} {hunks : List Hunk}
    (later : ∀ h ∈ hunks, number < h.number) (r : Bytes) (rs : List Bytes) :
    subjectLines number (r :: rs) hunks = r :: subjectLines (number + 1) rs hunks := by
  cases hunks with
  | nil => rw [subjectLines_no_hunk, subjectLines_no_hunk]
  | cons h hs =>
    have other : h.number ≠ number := (later h List.mem_cons_self).ne'
    rw [subjectLines, if_neg other]

theorem number_le_of_mem_subjectOnly {number : Nat} {lines : List Bytes} {h : Hunk}
    (mem : h ∈ subjectOnly number lines) : number ≤ h.number := by
  induction lines generalizing number with
  | nil => cases mem
  | cons line rest ih =>
    rcases List.mem_cons.1 mem with rfl | later
    · exact le_rfl
    · exact Nat.le_of_succ_le (ih later)

theorem number_le_of_mem_hunksFrom {number : Nat} {reference subject : List Bytes} {h : Hunk}
    (mem : h ∈ hunksFrom number reference subject) : number ≤ h.number := by
  fun_induction hunksFrom number reference subject with
  | case1 number subject => exact number_le_of_mem_subjectOnly mem
  | case2 number r rs ih =>
    -- The first hunk has this number, and those behind it have greater ones.
    rcases List.mem_cons.1 mem with rfl | later
    · exact le_rfl
    · exact Nat.le_of_succ_le (ih later)
  | case3 number r rs ss ih => exact Nat.le_of_succ_le (ih mem)
  | case4 number r rs s ss different ih =>
    rcases List.mem_cons.1 mem with rfl | later
    · exact le_rfl
    · exact Nat.le_of_succ_le (ih later)

theorem filterMap_subjectOnly (number : Nat) (lines : List Bytes) :
    (subjectOnly number lines).filterMap Hunk.subject = lines := by
  induction lines generalizing number with
  | nil => rfl
  | cons line rest ih =>
    show line :: (subjectOnly (number + 1) rest).filterMap Hunk.subject = line :: rest
    rw [ih]

/-- The hunks of two lists of lines turn the first into the second. -/
theorem subjectLines_hunksFrom (number : Nat) (reference subject : List Bytes) :
    subjectLines number reference (hunksFrom number reference subject) = subject := by
  fun_induction hunksFrom number reference subject with
  | case1 number subject => exact filterMap_subjectOnly number subject
  | case2 number r rs ih =>
    rw [subjectLines, if_pos rfl, ih]
    rfl
  -- No hunk has this number, so the line is that of the reference.
  | case3 number r rs ss ih =>
    rw [subjectLines_cons_of_later (fun _ mem => number_le_of_mem_hunksFrom mem), ih]
  | case4 number r rs s ss different ih =>
    rw [subjectLines, if_pos rfl, ih]
    rfl

/-- The hunk with the sides exchanged. -/
def Hunk.swap (h : Hunk) : Hunk :=
  ⟨h.number, h.subject, h.reference⟩

theorem hunksFrom_nil_right (number : Nat) (lines : List Bytes) :
    hunksFrom number lines [] = (subjectOnly number lines).map Hunk.swap := by
  induction lines generalizing number with
  | nil => rfl
  | cons line rest ih =>
    rw [hunksFrom, ih]
    rfl

theorem hunksFrom_swap (number : Nat) (reference subject : List Bytes) :
    hunksFrom number subject reference = (hunksFrom number reference subject).map Hunk.swap := by
  fun_induction hunksFrom number reference subject with
  | case1 number subject => exact hunksFrom_nil_right number subject
  | case2 number r rs ih =>
    rw [hunksFrom, subjectOnly, List.map_cons, ← ih, hunksFrom]
    rfl
  | case3 number r rs ss ih => rw [hunksFrom, if_pos rfl, ih]
  | case4 number r rs s ss different ih =>
    rw [hunksFrom, if_neg (Ne.symm different), ih]
    rfl

/-! ## The rows of a diff -/

/-- A line of a payload behind a mark, without the line feed. -/
def markedRow (mark : Char) (line : Bytes) : List Char :=
  mark :: '"' :: (escape line ++ ['"'])

/-- The row with the number of a line. -/
def numberRow (number : Nat) : List Char :=
  "@@ line ".toList ++ (Numeral.decimal number ++ " @@".toList)

/-- The rows of a hunk. -/
def Hunk.rows (h : Hunk) : List (List Char) :=
  numberRow h.number ::
    ((h.reference.map (markedRow '-')).toList ++ (h.subject.map (markedRow '+')).toList)

/-- The row with the offset of the first byte that differs. -/
def offsetRow (offset : Nat) : List Char :=
  "first difference at byte ".toList ++ Numeral.decimal offset

/-- The rows of the diff of two payloads that differ. -/
def rows (reference subject : Bytes) : List (List Char) :=
  "--- reference".toList :: "+++ subject".toList ::
    ((hunks reference subject).flatMap Hunk.rows ++ [offsetRow (commonLength reference subject)])

theorem text_side (mark : Char) (side : Option Bytes) :
    (side.map (markedLine mark)).getD [] = unrows (side.map (markedRow mark)).toList := by
  cases side <;> simp [unrows, markedLine, markedRow]

theorem Hunk.text_eq_unrows (h : Hunk) : h.text = unrows h.rows := by
  have ending : " @@\n".toList = " @@".toList ++ ['\n'] := by simp
  -- Rewriting would compare one fixed text with another, so they are kept out of it.
  have put_together {before digits behind behindFeed reference subject : List Char}
      {first second : List (List Char)} (feed : behindFeed = behind ++ ['\n'])
      (one : reference = unrows first) (other : subject = unrows second) :
      before ++ digits ++ behindFeed ++ reference ++ subject =
        unrows ((before ++ (digits ++ behind)) :: (first ++ second)) := by
    rw [feed, one, other]
    simp [unrows]
  exact put_together ending (text_side '-' h.reference) (text_side '+' h.subject)

theorem differing_eq_unrows (reference subject : Bytes) :
    differing reference subject = unrows (rows reference subject) := by
  have heading : "--- reference\n+++ subject\n".toList =
      unrows ["--- reference".toList, "+++ subject".toList] := by simp [unrows]
  have each : (hunks reference subject).flatMap Hunk.text =
      unrows ((hunks reference subject).flatMap Hunk.rows) := by
    rw [unrows, List.flatMap_assoc]
    exact List.flatMap_congr fun h _ => h.text_eq_unrows
  -- Only the grouping of the texts is different, not their order.
  have put_together {heading texts before digits : List Char} {top between : List (List Char)}
      (first : heading = unrows top) (middle : texts = unrows between) :
      heading ++ texts ++ before ++ digits ++ ['\n'] =
        unrows (top ++ (between ++ [before ++ digits])) := by
    rw [first, middle]
    simp [unrows]
  exact put_together heading each

/-! ### Rows are printable -/

theorem printable_of_mem_decimal {n : Nat} {c : Char} (mem : c ∈ Numeral.decimal n) :
    Printable c := by
  have digit : ∀ d < 10, Printable (Numeral.digitChar d) := by decide
  have each : ∀ c ∈ Numeral.decimal n, Printable c :=
    Numeral.forall_mem_digits (by decide) digit n
  exact each c mem

theorem printable_of_mem_markedRow {mark : Char} (printable : Printable mark) {line : Bytes} :
    ∀ c ∈ markedRow mark line, Printable c := by
  have quote : Printable '"' := by decide
  intro c mem
  simp only [markedRow, List.mem_cons, List.mem_append, List.not_mem_nil, or_false] at mem
  obtain rfl | rfl | inside | rfl := mem
  · exact printable
  · exact quote
  · exact printable_of_mem_escape inside
  · exact quote

theorem printable_of_mem_numberRow {number : Nat} : ∀ c ∈ numberRow number, Printable c := by
  have before : ∀ c ∈ "@@ line ".toList, Printable c := by simp [Printable]
  have behind : ∀ c ∈ " @@".toList, Printable c := by simp [Printable]
  intro c mem
  rcases List.mem_append.1 mem with mem | mem
  · exact before c mem
  · rcases List.mem_append.1 mem with mem | mem
    · exact printable_of_mem_decimal mem
    · exact behind c mem

theorem printable_of_mem_offsetRow {offset : Nat} : ∀ c ∈ offsetRow offset, Printable c := by
  have before : ∀ c ∈ "first difference at byte ".toList, Printable c := by simp [Printable]
  intro c mem
  rcases List.mem_append.1 mem with mem | mem
  · exact before c mem
  · exact printable_of_mem_decimal mem

theorem printable_of_mem_hunk_rows {h : Hunk} : ∀ row ∈ h.rows, ∀ c ∈ row, Printable c := by
  intro row mem
  simp only [Hunk.rows, List.mem_cons, List.mem_append, Option.mem_toList,
    Option.map_eq_some_iff] at mem
  obtain rfl | ⟨line, -, rfl⟩ | ⟨line, -, rfl⟩ := mem
  · exact printable_of_mem_numberRow
  · exact printable_of_mem_markedRow (by decide)
  · exact printable_of_mem_markedRow (by decide)

theorem printable_of_mem_rows {reference subject : Bytes} :
    ∀ row ∈ rows reference subject, ∀ c ∈ row, Printable c := by
  have first : ∀ c ∈ "--- reference".toList, Printable c := by simp [Printable]
  have second : ∀ c ∈ "+++ subject".toList, Printable c := by simp [Printable]
  intro row mem
  simp only [rows, List.mem_cons, List.mem_append, List.mem_flatMap, List.not_mem_nil,
    or_false] at mem
  obtain rfl | rfl | ⟨h, -, inside⟩ | rfl := mem
  · exact first
  · exact second
  · exact printable_of_mem_hunk_rows row inside
  · exact printable_of_mem_offsetRow

/-- The rows of a diff are found again by cutting their text at the line feeds. -/
theorem splitOn_unrows_rows (reference subject : Bytes) :
    (unrows (rows reference subject)).splitOn '\n' = rows reference subject ++ [[]] :=
  Text.splitOn_unrows fun row mem feed =>
    absurd (printable_of_mem_rows row mem '\n' feed) (by decide)

/-! ## Reading a diff

A reader that goes through the rows from the end collects the hunks: a row with a number opens one,
and the rows behind it that are marked give its two lines. -/

/-- What a diff shows from some row on: the marked lines before the next number, and the hunks from
there. -/
structure Shown where
  reference : Option Bytes
  subject : Option Bytes
  hunks : List Hunk

/-- The number in a row, behind its first eight characters. -/
def shownNumber (row : List Char) : Nat :=
  Nat.ofDigitChars 10 ((row.drop 8).takeWhile Char.isDigit) 0

/-- The line in a row, between a mark with a quote and a quote. -/
def shownLine? (row : List Char) : Option Bytes :=
  unescape? (row.drop 2).dropLast

/-- Takes a row into account that stands before what has been read. -/
def Shown.behind (row : List Char) (later : Shown) : Shown :=
  match row.head? with
  | some '@' => ⟨none, none, ⟨shownNumber row, later.reference, later.subject⟩ :: later.hunks⟩
  | some '-' => { later with reference := shownLine? row }
  | some '+' => { later with subject := shownLine? row }
  | _ => later

/-- The hunks in the text of a diff, behind the two rows that name the sides. -/
def shownHunks (diff : String) : List Hunk :=
  (((diff.toList.splitOn '\n').drop 2).foldr Shown.behind ⟨none, none, []⟩).hunks

theorem shownNumber_numberRow (number : Nat) : shownNumber (numberRow number) = number := by
  have digits : ∀ c ∈ Numeral.decimal number, c.isDigit = true := by
    intro c mem
    exact Numeral.isDigit_of_mem_decimal mem
  have behind : " @@".toList.takeWhile Char.isDigit = [] := by simp
  have text : (numberRow number).drop 8 = Numeral.decimal number ++ " @@".toList :=
    List.drop_left' (by simp)
  rw [shownNumber, text, List.takeWhile_append_of_pos digits, behind, List.append_nil,
    Numeral.decimal, Numeral.digits_eq_toDigits (by decide) (by decide)]
  exact Nat.ofDigitChars_ten_toDigits

theorem shownLine?_markedRow (mark : Char) (line : Bytes) :
    shownLine? (markedRow mark line) = some line := by
  show unescape? (escape line ++ ['"']).dropLast = _
  rw [List.dropLast_concat, unescape?_escape]

theorem behind_numberRow (number : Nat) (later : Shown) :
    later.behind (numberRow number) =
      ⟨none, none, ⟨number, later.reference, later.subject⟩ :: later.hunks⟩ := by
  show Shown.mk none none (⟨shownNumber (numberRow number), _, _⟩ :: _) = _
  rw [shownNumber_numberRow]

theorem behind_referenceRow (line : Bytes) (later : Shown) :
    later.behind (markedRow '-' line) = { later with reference := some line } := by
  show Shown.mk (shownLine? (markedRow '-' line)) _ _ = _
  rw [shownLine?_markedRow]

theorem behind_subjectRow (line : Bytes) (later : Shown) :
    later.behind (markedRow '+' line) = { later with subject := some line } := by
  show Shown.mk _ (shownLine? (markedRow '+' line)) _ = _
  rw [shownLine?_markedRow]

/-- The rows of a hunk are read as that hunk. -/
theorem foldr_hunk_rows (h : Hunk) (later : List Hunk) :
    h.rows.foldr Shown.behind ⟨none, none, later⟩ = ⟨none, none, h :: later⟩ := by
  obtain ⟨number, reference, subject⟩ := h
  cases reference <;> cases subject <;>
    simp [Hunk.rows, behind_numberRow, behind_referenceRow, behind_subjectRow]

theorem foldr_hunks_rows (hunks later : List Hunk) :
    (hunks.flatMap Hunk.rows).foldr Shown.behind ⟨none, none, later⟩ =
      ⟨none, none, hunks ++ later⟩ := by
  induction hunks with
  | nil => rfl
  | cons h rest ih =>
    rw [List.flatMap_cons, List.foldr_append, ih, foldr_hunk_rows, List.cons_append]

/-- What a diff shows are the hunks of the two payloads. -/
theorem shownHunks_render (reference subject : Bytes) :
    shownHunks (render reference subject) = hunks reference subject := by
  by_cases same : reference = subject
  · have none_shown : shownHunks "[identical]" = [] := by decide +kernel
    rw [render, if_pos same, none_shown, hunks_eq_nil_iff.2 same]
  · have behind : (rows reference subject ++ [[]]).drop 2 =
        (hunks reference subject).flatMap Hunk.rows ++
          [offsetRow (commonLength reference subject), []] := by
      simp [rows]
    -- The rows behind the last hunk name none, so the reader is where it began.
    have rest : [offsetRow (commonLength reference subject), []].foldr Shown.behind
        ⟨none, none, []⟩ = ⟨none, none, []⟩ := rfl
    rw [shownHunks, toList_render_of_ne same, differing_eq_unrows, splitOn_unrows_rows, behind,
      List.foldr_append, rest, foldr_hunks_rows, List.append_nil]

/-! ## One side from the other -/

/-- The payload of the subject, from that of the reference and a diff. -/
def subjectOf (reference : Bytes) (diff : String) : Bytes :=
  List.intercalate [0x0a] (subjectLines 1 (lines reference) (shownHunks diff))

/-- The payload of the reference, from that of the subject and a diff. -/
def referenceOf (subject : Bytes) (diff : String) : Bytes :=
  List.intercalate [0x0a] (subjectLines 1 (lines subject) ((shownHunks diff).map Hunk.swap))

theorem subjectOf_render (reference subject : Bytes) :
    subjectOf reference (render reference subject) = subject := by
  rw [subjectOf, shownHunks_render, hunks, subjectLines_hunksFrom, intercalate_lines]

theorem referenceOf_render (reference subject : Bytes) :
    referenceOf subject (render reference subject) = reference := by
  rw [referenceOf, shownHunks_render, hunks, ← hunksFrom_swap, subjectLines_hunksFrom,
    intercalate_lines]

theorem render_eq_identical_iff {reference subject : Bytes} :
    render reference subject = "[identical]" ↔ reference = subject := by
  constructor
  · intro shown
    by_contra different
    exact render_ne_identical different shown
  · intro same
    rw [render, if_pos same]

/-- A diff loses nothing: with one payload it gives the other, so no two payloads have the same diff
to a third one, and it says that the payloads are identical just when they are. -/
theorem render_lossless (reference subject : Bytes) :
    (render reference subject = "[identical]" ↔ reference = subject) ∧
    subjectOf reference (render reference subject) = subject ∧
    referenceOf subject (render reference subject) = reference ∧
    Function.Injective (render reference) ∧
    Function.Injective fun other => render other subject := by
  refine ⟨render_eq_identical_iff, subjectOf_render reference subject,
    referenceOf_render reference subject, ?_, ?_⟩
  · -- Equal diffs with one side in common are read back as the same other side.
    intro first second same
    rw [← subjectOf_render reference first, same, subjectOf_render]
  · intro first second same
    have shown : render first subject = render second subject := same
    rw [← referenceOf_render first subject, shown, referenceOf_render]

end FormatConformance.Diff
