import FormatConformance.Text.Blank
import Mathlib.Data.List.DropRight

/-!
# What trimming leaves

A text without white space at its ends is just what trimming gives (`unpadded_trim`) and what it
leaves as it stands (`trim_of_unpadded`), so such texts are the only ones that reach a reader behind
a trimming step.
-/

namespace FormatConformance.Text

/-- A text whose first and last characters are not white space, if there are any. -/
def Unpadded (text : List Char) : Prop :=
  (∀ c ∈ text.head?, isBlank c = false) ∧ ∀ c ∈ text.getLast?, isBlank c = false

theorem unpadded_of_forall_mem {text : List Char} (solid : ∀ c ∈ text, isBlank c = false) :
    Unpadded text :=
  ⟨fun c first => solid c (List.mem_of_mem_head? first),
    fun c last => solid c (List.mem_of_mem_getLast? last)⟩

theorem trimStart_of_head? {text : List Char} (solid : ∀ c ∈ text.head?, isBlank c = false) :
    trimStart text = text := by
  cases text with
  | nil => rfl
  | cons c text => simp [trimStart, solid c rfl]

theorem trimEnd_of_getLast? {text : List Char} (solid : ∀ c ∈ text.getLast?, isBlank c = false) :
    trimEnd text = text := by
  have stands : trimStart text.reverse = text.reverse :=
    trimStart_of_head? (by rwa [List.head?_reverse])
  rw [trimEnd, ← trimStart, stands, List.reverse_reverse]

theorem head?_trimStart (text : List Char) : ∀ c ∈ (trimStart text).head?, isBlank c = false := by
  intro c first
  have stopped := List.head?_dropWhile_not isBlank text
  rw [trimStart, Option.mem_def] at first
  rwa [first] at stopped

theorem unpadded_trim (text : List Char) : Unpadded (trim text) := by
  constructor
  · intro c first
    -- What is left at the end starts as the text did.
    obtain ⟨rest, whole⟩ : trim text <+: trimStart text := List.rdropWhile_prefix isBlank _
    exact head?_trimStart text c (whole ▸ List.mem_head?_append_of_mem_head? first)
  · intro c last
    rw [trim, trimEnd, List.getLast?_reverse] at last
    exact head?_trimStart (trimStart text).reverse c last

/-- What is taken off the end is white space, and what is left does not end in it. -/
theorem exists_trimEnd (text : List Char) :
    ∃ tail, text = trimEnd text ++ tail ∧ (∀ c ∈ tail, isBlank c) ∧
      ∀ c ∈ (trimEnd text).getLast?, isBlank c = false := by
  refine ⟨(text.reverse.takeWhile isBlank).reverse, ?_, fun c mem => ?_, fun c last => ?_⟩
  · rw [trimEnd, ← List.reverse_append, List.takeWhile_append_dropWhile, List.reverse_reverse]
  · exact List.mem_takeWhile_imp (List.mem_reverse.1 mem)
  · rw [trimEnd, List.getLast?_reverse] at last
    exact head?_trimStart text.reverse c last

theorem trim_of_unpadded {text : List Char} (unpadded : Unpadded text) : trim text = text := by
  rw [trim, trimStart_of_head? unpadded.1, trimEnd_of_getLast? unpadded.2]

/-- A text with white space around it. -/
def Padded (padded text : List Char) : Prop :=
  ∃ before after, (∀ c ∈ before, isBlank c) ∧ (∀ c ∈ after, isBlank c) ∧
    padded = before ++ text ++ after

/-- What trimming takes off is the white space around what it leaves. -/
theorem padded_trim (text : List Char) : Padded text (trim text) := by
  obtain ⟨tail, whole, blank, -⟩ := exists_trimEnd (trimStart text)
  refine ⟨text.takeWhile isBlank, tail, fun c mem => List.mem_takeWhile_imp mem, blank, ?_⟩
  rw [List.append_assoc, trim, ← whole, trimStart, List.takeWhile_append_dropWhile]

theorem trimStart_append {before : List Char} (blank : ∀ c ∈ before, isBlank c)
    (text : List Char) : trimStart (before ++ text) = trimStart text :=
  List.dropWhile_append_of_pos blank

theorem trimEnd_append {after : List Char} (blank : ∀ c ∈ after, isBlank c) (text : List Char) :
    trimEnd (text ++ after) = trimEnd text := by
  have turned : ∀ c ∈ after.reverse, isBlank c := fun c mem => blank c (List.mem_reverse.1 mem)
  rw [trimEnd, List.reverse_append, List.dropWhile_append_of_pos turned, trimEnd]

/-- Trimming takes off the white space around a text and nothing else. -/
theorem trim_of_padded {padded text : List Char} (around : Padded padded text)
    (unpadded : Unpadded text) : trim padded = text := by
  obtain ⟨before, after, blank, blank_after, rfl⟩ := around
  rw [trim, List.append_assoc, trimStart_append blank]
  cases text with
  | nil =>
    have nothing : trimStart after = [] := List.dropWhile_eq_nil_iff.2 blank_after
    rw [List.nil_append, nothing]
    rfl
  | cons c rest =>
    have solid : ∀ d ∈ (c :: rest ++ after).head?, isBlank d = false := unpadded.1
    rw [trimStart_of_head? solid, trimEnd_append blank_after, trimEnd_of_getLast? unpadded.2]

end FormatConformance.Text
