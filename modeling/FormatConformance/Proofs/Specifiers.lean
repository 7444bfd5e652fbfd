import FormatConformance.Proofs.Random.Yields
import FormatConformance.Specifier
import Mathlib.Data.List.Forall2

/-!
# The texts of the specifier grammars

A character of a matching text is in one of the sets of the pattern
(`Pattern.exists_set_of_matches`), so what holds of the sets of a grammar holds of all its texts: no
specifier has a brace or a character that is not printable (`plain_of_matches`). Taken apart along
the pattern, a specifier of a text is empty or names its alignment (`text_aligned`), although a fill
character may itself look like one.
-/

namespace FormatConformance

namespace Pattern

variable {p q : Pattern} {x : List Char}

/-- The sets of a pattern. -/
def sets : Pattern → List CharSet
  | empty => []
  | oneOf set => [set]
  | seq p q => p.sets ++ q.sets
  | either p q => p.sets ++ q.sets
  | times _ _ p => p.sets

theorem exists_set_of_matches (matched : Matches p x) :
    ∀ c ∈ x, ∃ set ∈ p.sets, set.contains c := by
  induction matched with
  | empty => simp
  | oneOf member =>
    intro c mem
    rw [List.mem_singleton.1 mem]
    exact ⟨_, .head _, member⟩
  | seq _ _ first second =>
    intro c mem
    rcases List.mem_append.1 mem with left | right
    · obtain ⟨set, among, member⟩ := first c left
      exact ⟨set, List.mem_append_left _ among, member⟩
    · obtain ⟨set, among, member⟩ := second c right
      exact ⟨set, List.mem_append_right _ among, member⟩
  | first _ ih =>
    intro c mem
    obtain ⟨set, among, member⟩ := ih c mem
    exact ⟨set, List.mem_append_left _ among, member⟩
  | second _ ih =>
    intro c mem
    obtain ⟨set, among, member⟩ := ih c mem
    exact ⟨set, List.mem_append_right _ among, member⟩
  -- A repetition has no sets of its own.
  | times _ _ _ each =>
    intro c mem
    obtain ⟨part, among, inside⟩ := List.mem_flatten.1 mem
    exact each part among c inside

/-! ## Texts taken apart -/

theorem matches_empty_iff : Matches empty x ↔ x = [] := by
  constructor
  · rintro ⟨⟩
    rfl
  · rintro rfl
    exact .empty

theorem matches_oneOf_iff {set : CharSet} :
    Matches (oneOf set) x ↔ ∃ c, x = [c] ∧ set.contains c := by
  constructor
  · intro matched
    cases matched with
    | oneOf member => exact ⟨_, rfl, member⟩
  · rintro ⟨c, rfl, member⟩
    exact .oneOf member

theorem matches_seq_iff :
    Matches (seq p q) x ↔ ∃ y z, x = y ++ z ∧ Matches p y ∧ Matches q z := by
  constructor
  · intro matched
    cases matched with
    | seq first second => exact ⟨_, _, rfl, first, second⟩
  · rintro ⟨y, z, rfl, first, second⟩
    exact .seq first second

theorem matches_either_iff : Matches (either p q) x ↔ Matches p x ∨ Matches q x := by
  constructor
  · intro matched
    cases matched with
    | first matched => exact .inl matched
    | second matched => exact .inr matched
  · rintro (matched | matched)
    · exact .first matched
    · exact .second matched

theorem matches_times_nil {most : Option Nat} : Matches (times 0 most p) [] :=
  @Matches.times _ _ _ [] (by simp) (Nat.zero_le _) fun _ _ => Nat.zero_le _

theorem matches_opt_iff : Matches (opt p) x ↔ x = [] ∨ Matches p x := by
  constructor
  · intro matched
    cases matched with
    | @times _ _ _ parts each _ within =>
      -- At most one part: none of them is the empty text.
      have short : parts.length ≤ 1 := within 1 rfl
      match parts, short with
      | [], _ => exact .inl rfl
      | [part], _ =>
        rw [List.flatten_singleton]
        exact .inr (each part (.head _))
  · rintro (rfl | matched)
    · exact matches_times_nil
    · have once : Matches (opt p) [x].flatten :=
        .times (by simpa using matched) (Nat.zero_le _) (by rintro _ ⟨⟩; simp)
      rwa [List.flatten_singleton] at once

/-- Characters of one set. -/
theorem matches_times_oneOf {least bound : Nat} {set : CharSet}
    (matched : Matches (times least (some bound) (oneOf set)) x) :
    x.length ≤ bound ∧ ∀ c ∈ x, set.contains c := by
  cases matched with
  | @times _ _ _ parts each _ within =>
    -- Each part is one character, so the parts are counted by the length of the text.
    have single : ∀ part ∈ parts, part.length = 1 := by
      intro part mem
      obtain ⟨c, rfl, -⟩ := matches_oneOf_iff.1 (each part mem)
      rfl
    have length : parts.flatten.length = parts.length := by
      rw [List.length_flatten, List.map_congr_left single]
      simp
    refine ⟨length ▸ within bound rfl, fun c mem => ?_⟩
    obtain ⟨part, among, inside⟩ := List.mem_flatten.1 mem
    obtain ⟨d, rfl, member⟩ := matches_oneOf_iff.1 (each part among)
    rwa [List.mem_singleton.1 inside]

theorem matches_sequence_iff {ps : List Pattern} :
    Matches (sequence ps) x ↔ ∃ parts, List.Forall₂ Matches ps parts ∧ x = parts.flatten := by
  induction ps generalizing x with
  | nil =>
    constructor
    · rintro ⟨⟩
      exact ⟨[], .nil, rfl⟩
    · rintro ⟨_, ⟨⟩, rfl⟩
      exact .empty
  | cons p ps ih =>
    cases ps with
    | nil =>
      constructor
      · intro matched
        exact ⟨[x], .cons matched .nil, by simp⟩
      · rintro ⟨parts, each, rfl⟩
        obtain ⟨part, _, matched, ⟨⟩, rfl⟩ := List.forall₂_cons_left_iff.1 each
        rwa [List.flatten_singleton]
    | cons q ps =>
      rw [sequence, matches_seq_iff]
      · constructor
        · rintro ⟨y, z, rfl, first, others⟩
          obtain ⟨parts, each, rfl⟩ := ih.1 others
          exact ⟨y :: parts, .cons first each, rfl⟩
        · rintro ⟨_, each, rfl⟩
          obtain ⟨y, parts, first, others, rfl⟩ := List.forall₂_cons_left_iff.1 each
          exact ⟨y, parts.flatten, rfl, first, ih.2 ⟨parts, others, rfl⟩⟩
      · simp

/-- What matches a sequence ends in what matches its last part. -/
theorem exists_last_of_matches {ps : List Pattern} (matched : Matches (sequence (ps ++ [q])) x) :
    ∃ front last, x = front ++ last ∧ Matches q last := by
  obtain ⟨parts, each, rfl⟩ := matches_sequence_iff.1 matched
  have backwards := List.forall₂_reverse_iff.2 each
  rw [List.reverse_concat] at backwards
  obtain ⟨last, rest, found, -, reversed⟩ := List.forall₂_cons_left_iff.1 backwards
  have split : parts = rest.reverse ++ [last] := by
    rw [← List.reverse_reverse parts, reversed, List.reverse_cons]
  exact ⟨rest.reverse.flatten, last, by rw [split]; simp, found⟩

end Pattern

namespace Specifier

open Pattern

/-! ## Characters of specifiers -/

/-- A printable character of ASCII that is no brace. -/
def Plain (c : Char) : Prop :=
  0x20 ≤ c.toNat ∧ c.toNat ≤ 0x7e ∧ c ≠ '\x7b' ∧ c ≠ '\x7d'

/-- Every set of a grammar stays between the space and the tilde and leaves out the braces. -/
theorem plain_ranges (entry : EntryPoint) :
    ∀ set ∈ (grammar entry).sets, ∀ range ∈ set.ranges,
      0x20 ≤ range.1 ∧ range.2 ≤ 0x7e ∧ (range.2 < 0x7b ∨ 0x7b < range.1) ∧
        (range.2 < 0x7d ∨ 0x7d < range.1) := by
  cases entry <;> decide +kernel

theorem plain_of_matches {entry : EntryPoint} {x : List Char}
    (matched : Matches (grammar entry) x) : ∀ c ∈ x, Plain c := by
  intro c mem
  obtain ⟨set, among, member⟩ := exists_set_of_matches matched c mem
  obtain ⟨range, inside, bounds⟩ := List.any_eq_true.1 member
  obtain ⟨low, high⟩ : range.1 ≤ c.toNat ∧ c.toNat ≤ range.2 := by simpa using bounds
  obtain ⟨first, last, opening, closing⟩ := plain_ranges entry set among range inside
  refine ⟨by omega, by omega, ?_, ?_⟩
  · rintro rfl
    have number : '\x7b'.toNat = 0x7b := rfl
    omega
  · rintro rfl
    have number : '\x7d'.toNat = 0x7d := rfl
    omega

/-! ## Alignments of texts -/

theorem contains_ofList_iff {chars : List Char} (listed : (CharSet.ofList chars).ranges =
    chars.map fun c => (c.toNat, c.toNat)) {c : Char} :
    (CharSet.ofList chars).contains c ↔ c ∈ chars := by
  rw [CharSet.contains, listed, List.any_map, List.any_eq_true]
  constructor
  · rintro ⟨d, mem, bounds⟩
    obtain ⟨low, high⟩ : d.toNat ≤ c.toNat ∧ c.toNat ≤ d.toNat := by simpa using bounds
    have same : c = d := by
      rw [← Char.ofNat_toNat c, ← Char.ofNat_toNat d, Nat.le_antisymm high low]
    exact same ▸ mem
  · intro mem
    exact ⟨c, mem, by simp⟩

/-- A specifier of a text is empty or names its alignment, behind one fill character at most. -/
theorem text_aligned {x : List Char} (matched : Matches text x) :
    x = [] ∨ ∃ fill align width, x = fill ++ align :: width ∧ fill.length ≤ 1 ∧
      align ∈ ['<', '>', '^'] ∧ width.length ≤ 4 ∧ ∀ c ∈ width, c.isDigit := by
  rcases matches_opt_iff.1 matched with empty | present
  · exact .inl empty
  · obtain ⟨front, rest, rfl, filled, behind⟩ := matches_seq_iff.1 present
    obtain ⟨middle, width, rfl, aligned, wide⟩ := matches_seq_iff.1 behind
    obtain ⟨align, rfl, member⟩ := matches_oneOf_iff.1 aligned
    obtain ⟨short, digits⟩ := matches_times_oneOf wide
    refine .inr ⟨front, align, width, rfl, ?_, (contains_ofList_iff rfl).1 member, short, ?_⟩
    · -- The fill is optional, so the alignment may come first.
      rcases matches_opt_iff.1 filled with rfl | some_fill
      · exact Nat.zero_le 1
      · obtain ⟨c, rfl, -⟩ := matches_oneOf_iff.1 some_fill
        exact Nat.le_refl 1
    · intro c mem
      have bounds : 48 ≤ c.toNat ∧ c.toNat ≤ 57 := by
        simpa [CharSet.contains, CharSet.range, CharSet.ofRanges, CharSet.insertRange]
          using digits c mem
      rw [Char.isDigit, Bool.and_eq_true, decide_eq_true_iff, decide_eq_true_iff]
      exact ⟨UInt32.le_iff_toNat_le.2 bounds.1, UInt32.le_iff_toNat_le.2 bounds.2⟩

/-! ## Types of numbers

A specifier for numbers ends in a type, and a specifier of that type alone is in the grammar as
well. This is the one that a case shrinks to. -/

/-- All flags of a number may be left out. -/
theorem matches_unflagged {ps : List Pattern} {parts : List (List Char)}
    (each : List.Forall₂ Matches ps parts) :
    Matches (sequence (numberFlags ++ ps)) parts.flatten := by
  have none : List.Forall₂ Matches numberFlags [[], [], [], []] :=
    .cons (.second matches_times_nil)
      (.cons matches_times_nil (.cons matches_times_nil (.cons matches_times_nil .nil)))
  exact matches_sequence_iff.2 ⟨_, List.rel_append none each, rfl⟩

/-- A specifier of an integer ends in a type, which is a specifier alone. -/
theorem exists_int_type {x : List Char} (matched : Matches int x) :
    ∃ front type, x = front ++ [type] ∧ Matches int [type] := by
  have last_part : int = sequence ((numberFlags ++ [times 0 (some 4) digit]) ++
      [oneOf (.ofList ['b', 'd', 'o', 'x', 'X'])]) := rfl
  rw [last_part] at matched
  obtain ⟨front, last, rfl, typed⟩ := exists_last_of_matches matched
  obtain ⟨type, rfl, -⟩ := matches_oneOf_iff.1 typed
  exact ⟨front, type, rfl, matches_unflagged (.cons matches_times_nil (.cons typed .nil))⟩

/-- A specifier of a floating point value ends in a type, and with the width and the precision of
one digit before it the type is a specifier. -/
theorem exists_float_type {x : List Char} (matched : Matches float x) :
    ∃ front type, x = front ++ [type] ∧ Matches float ['1', '.', '1', type] := by
  -- The grammar is a sequence, and the type is the last set of it.
  have last_part : float = sequence ((numberFlags ++ [leadingDigit, times 0 (some 3) digit,
      char '.', leadingDigit, times 0 (some 2) digit]) ++
        [oneOf (.ofList ['e', 'E', 'f', 'F', 'g', 'G'])]) := rfl
  have one : Matches leadingDigit ['1'] := .oneOf (by decide +kernel)
  have point : Matches (char '.') ['.'] := .oneOf (by decide +kernel)
  rw [last_part] at matched
  obtain ⟨front, last, rfl, typed⟩ := exists_last_of_matches matched
  obtain ⟨type, rfl, -⟩ := matches_oneOf_iff.1 typed
  exact ⟨front, type, rfl, matches_unflagged (.cons one (.cons matches_times_nil (.cons point
    (.cons one (.cons matches_times_nil (.cons typed .nil))))))⟩

end Specifier

end FormatConformance
