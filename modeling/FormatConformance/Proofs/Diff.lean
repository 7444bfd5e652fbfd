import FormatConformance.Diff
import Mathlib.Data.List.Basic

/-!
# Lines and hunks

A diff shows the lines in which two payloads differ. Cutting a payload into lines loses nothing
(`intercalate_lines`), so payloads with the same lines are equal, and two lists of lines without a
hunk are the same list (`hunksFrom_eq_nil_iff`). Together: payloads that differ have a hunk
(`hunks_eq_nil_iff`), and their diff is a text with that hunk and with an offset
(`toList_render_of_ne`).
-/

namespace FormatConformance.Diff

/-! ## Lines

Lines are what stands between line feeds, so there is one more than there are feeds, and an empty
payload has one empty line. Taking the first byte off a payload changes its first line only. -/

theorem lines_ne_nil (bytes : Bytes) : lines bytes ≠ [] := by
  cases bytes with
  | nil => simp [lines]
  | cons b rest =>
    rw [lines]
    split
    · simp
    · split <;> simp

theorem lines_cons_feed (rest : Bytes) : lines (0x0a :: rest) = [] :: lines rest := by
  simp [lines]

/-- A byte that is no line feed goes to the front of the first line. -/
theorem lines_cons_of_ne {b : UInt8} (h : b ≠ 0x0a) {rest line : Bytes} {more : List Bytes}
    (later : lines rest = line :: more) : lines (b :: rest) = (b :: line) :: more := by
  simp [lines, h, later]

/-- A first line goes as far as the first line feed. -/
theorem lines_append_feed {line : Bytes} (whole : 0x0a ∉ line) (rest : Bytes) :
    lines (line ++ 0x0a :: rest) = line :: lines rest := by
  induction line with
  | nil => exact lines_cons_feed rest
  | cons b line ih =>
    -- The byte at the front is no feed, so it joins the line that is found behind it.
    rw [List.mem_cons, not_or] at whole
    exact lines_cons_of_ne (Ne.symm whole.1) (ih whole.2)

/-- The lines of a payload with line feeds between them are the payload. -/
theorem intercalate_lines (bytes : Bytes) : List.intercalate [0x0a] (lines bytes) = bytes := by
  induction bytes with
  | nil => simp [lines]
  | cons b rest ih =>
    obtain ⟨line, more, later⟩ := List.exists_cons_of_ne_nil (lines_ne_nil rest)
    rw [later] at ih
    by_cases feed : b = 0x0a
    · -- A feed opens an empty line in front of the others.
      rw [feed, lines_cons_feed, later, List.intercalate_cons_cons, ih]
      rfl
    · rw [lines_cons_of_ne feed later]
      cases more <;> simp_all

theorem lines_injective : Function.Injective lines := by
  intro a b same
  rw [← intercalate_lines a, same, intercalate_lines b]

/-! ## Hunks -/

theorem subjectOnly_eq_nil_iff {number : Nat} {lines : List Bytes} :
    subjectOnly number lines = [] ↔ lines = [] := by
  cases lines <;> simp [subjectOnly]

theorem hunksFrom_eq_nil_iff {number : Nat} {reference subject : List Bytes} :
    hunksFrom number reference subject = [] ↔ reference = subject := by
  fun_induction hunksFrom number reference subject with
  | case1 number subject => rw [subjectOnly_eq_nil_iff, eq_comm]
  | case2 => simp
  | case3 number r rs ss ih => simp [ih]
  | case4 number r rs s ss different => simp [different]

/-- There is a hunk wherever two payloads differ. -/
theorem hunks_eq_nil_iff {reference subject : Bytes} :
    hunks reference subject = [] ↔ reference = subject := by
  rw [hunks, hunksFrom_eq_nil_iff, lines_injective.eq_iff]

/-! ## The text of a diff -/

theorem firstDifference?_of_ne {a b : Bytes} (h : a ≠ b) :
    firstDifference? a b = some (commonLength a b) := by
  rw [firstDifference?, if_neg h]

theorem toList_render_of_ne {a b : Bytes} (h : a ≠ b) : (render a b).toList = differing a b := by
  rw [render, if_neg h, String.toList_ofList]

theorem head?_differing (a b : Bytes) : (differing a b).head? = some '-' := by
  have heading : "--- reference\n+++ subject\n".toList.head? = some '-' := by decide +kernel
  unfold differing
  simp only [List.head?_append, heading, Option.some_or]

theorem render_ne_identical {a b : Bytes} (h : a ≠ b) : render a b ≠ "[identical]" := by
  intro same
  have first : "[identical]".toList.head? = some '-' := by
    rw [← same, toList_render_of_ne h, head?_differing]
  exact absurd first (by decide +kernel)

end FormatConformance.Diff
