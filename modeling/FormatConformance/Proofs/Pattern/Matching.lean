import FormatConformance.Proofs.Specifiers

/-!
# The matcher

What the matcher leaves behind a match is what stands behind a text that matches (`leaves_rests`).
The one place where this is not plain is a repetition without bound, which the matcher bounds by the
length of the text: parts that are empty can be left out as long as there are enough others
(`InParts.few`), and of those that are not there are no more than characters. The bounds of a
repetition must be in order; the matcher does not look at the upper one before it has seen the
least number of parts.
-/

namespace FormatConformance.Pattern

variable {p q : Pattern} {x text rest : List Char}

/-- In every repetition the least number is not beyond the greatest one. -/
def isOrdered : Pattern → Bool
  | empty => true
  | oneOf _ => true
  | seq p q => p.isOrdered && q.isOrdered
  | either p q => p.isOrdered && q.isOrdered
  | times least most p => (most.all fun bound => least ≤ bound) && p.isOrdered

/-! ## Texts in parts -/

/-- A text that is put together from parts with a property, of which there may be so many. -/
def InParts (P : List Char → Prop) (count : Nat → Prop) (x : List Char) : Prop :=
  ∃ parts : List (List Char), (∀ part ∈ parts, P part) ∧ count parts.length ∧ x = parts.flatten

section

variable {P : List Char → Prop} {count : Nat → Prop}

theorem inParts_zero_iff : InParts P (· = 0) x ↔ x = [] := by
  constructor
  · rintro ⟨parts, -, none, rfl⟩
    rw [List.length_eq_zero_iff.1 none, List.flatten_nil]
  · rintro rfl
    exact ⟨[], List.forall_mem_nil _, rfl, rfl⟩

/-- An exact number of parts stands before all the others. -/
theorem inParts_append_iff {number : Nat} :
    (∃ y z, x = y ++ z ∧ InParts P (· = number) y ∧ InParts P count z) ↔
      InParts P (fun n => number ≤ n ∧ count (n - number)) x := by
  constructor
  · rintro ⟨_, _, rfl, ⟨front, each, rfl, rfl⟩, back, each_back, counted, rfl⟩
    refine ⟨front ++ back, List.forall_mem_append.2 ⟨each, each_back⟩, ?_,
      List.flatten_append.symm⟩
    simp only [List.length_append, Nat.add_sub_cancel_left]
    exact ⟨Nat.le_add_right _ _, counted⟩
  · rintro ⟨parts, each, ⟨enough, counted⟩, rfl⟩
    refine ⟨(parts.take number).flatten, (parts.drop number).flatten, ?_,
      ⟨_, fun part mem => each part (List.mem_of_mem_take mem), List.length_take_of_le enough, rfl⟩,
      _, fun part mem => each part (List.mem_of_mem_drop mem), ?_, rfl⟩
    · rw [← List.flatten_append, List.take_append_drop]
    · rwa [List.length_drop]

theorem inParts_one_iff : InParts P (· = 1) x ↔ P x := by
  constructor
  · rintro ⟨parts, each, single, rfl⟩
    obtain ⟨part, rfl⟩ := List.length_eq_one_iff.1 single
    simpa using each
  · intro holds
    exact ⟨[x], List.forall_mem_singleton.2 holds, rfl, by simp⟩

/-- Of so many parts and one, the one stands in front. -/
theorem inParts_succ_iff {number : Nat} :
    InParts P (· = number + 1) x ↔ ∃ y z, x = y ++ z ∧ P y ∧ InParts P (· = number) z := by
  have first : (∃ y z, x = y ++ z ∧ InParts P (· = 1) y ∧ InParts P (· = number) z) ↔
      InParts P (fun n => 1 ≤ n ∧ n - 1 = number) x := inParts_append_iff
  have same (n : Nat) : n = number + 1 ↔ 1 ≤ n ∧ n - 1 = number := by omega
  simp only [inParts_one_iff] at first
  simp only [first, same]

/-- Empty parts can be left out as long as the others are enough, and each of the others takes at
least one character. -/
theorem InParts.few {least : Nat} (parted : InParts P (least ≤ ·) x) :
    InParts P (fun n => least ≤ n ∧ n ≤ least + x.length) x := by
  obtain ⟨parts, each, enough, rfl⟩ := parted
  induction parts generalizing least with
  | nil => exact ⟨[], each, ⟨enough, Nat.zero_le _⟩, rfl⟩
  | cons part parts ih =>
    obtain ⟨first, others⟩ := List.forall_mem_cons.1 each
    rw [List.length_cons] at enough
    by_cases needed : least = parts.length + 1
    · refine ⟨part :: parts, each, ⟨enough, ?_⟩, rfl⟩
      rw [needed, List.length_cons]
      exact Nat.le_add_right _ _
    by_cases nothing : part = []
    · subst nothing
      exact ih others (by omega)
    · -- The part takes a character of its own, which pays for it.
      obtain ⟨few, each_few, ⟨some_few, bound⟩, same⟩ :=
        ih others (show least - 1 ≤ _ by omega)
      have taken : 0 < part.length := List.length_pos_iff.2 nothing
      refine ⟨part :: few, List.forall_mem_cons.2 ⟨first, each_few⟩, ?_, ?_⟩
      · rw [List.length_cons, List.flatten_cons, List.length_append]
        omega
      · rw [List.flatten_cons, List.flatten_cons, same]

end

theorem matches_times_iff {least : Nat} {most : Option Nat} :
    Matches (times least most p) x ↔
      InParts (Matches p) (fun n => least ≤ n ∧ WithinMost n most) x := by
  constructor
  · intro matched
    cases matched with
    | times each enough within => exact ⟨_, each, ⟨enough, within⟩, rfl⟩
  · rintro ⟨parts, each, ⟨enough, within⟩, rfl⟩
    exact .times each enough within

/-! ## What is left behind a match

The matcher goes on with every rest that a part leaves. So its steps are told by the rests alone,
and a repetition can be looked at for any step. -/

/-- A step leaves behind just what stands behind a text with a property. -/
def Leaves (step : List Char → List (List Char)) (P : List Char → Prop) : Prop :=
  ∀ text rest, rest ∈ step text ↔ ∃ x, P x ∧ text = x ++ rest

namespace Leaves

variable {step next : List Char → List (List Char)} {P Q : List Char → Prop}

theorem congr (leaves : Leaves step P) (same : ∀ x, P x ↔ Q x) : Leaves step Q := by
  intro text rest
  simp only [leaves text rest, same]

theorem here : Leaves (fun text => [text]) (· = []) := by
  intro text rest
  simp [eq_comm]

/-- One step behind the other leaves what stands behind two texts in a row. -/
theorem flatMap (first : Leaves step P) (second : Leaves next Q) :
    Leaves (fun text => (step text).flatMap next) fun x => ∃ y z, x = y ++ z ∧ P y ∧ Q z := by
  intro text rest
  simp only [List.mem_flatMap, first text, second _]
  constructor
  · rintro ⟨_, ⟨y, holds, rfl⟩, z, holds', rfl⟩
    exact ⟨y ++ z, ⟨y, z, rfl, holds, holds'⟩, (List.append_assoc ..).symm⟩
  · rintro ⟨_, ⟨y, z, rfl, holds, holds'⟩, rfl⟩
    exact ⟨z ++ rest, ⟨y, holds, List.append_assoc ..⟩, z, holds', rfl⟩

theorem restsExactly (leaves : Leaves step P) (count : Nat) :
    Leaves (restsExactly step count) (InParts P (· = count)) := by
  induction count with
  | zero => exact here.congr fun x => inParts_zero_iff.symm
  | succ count ih => exact (leaves.flatMap ih).congr fun x => inParts_succ_iff.symm

end Leaves

/-- Up to a bound means any number of times that is not beyond it. -/
theorem mem_restsUpTo_iff {step : List Char → List (List Char)} (bound : Nat)
    (text rest : List Char) :
    rest ∈ restsUpTo step bound text ↔ ∃ count ≤ bound, rest ∈ restsExactly step count text := by
  induction bound generalizing text with
  | zero => simp [restsUpTo, restsExactly]
  | succ bound ih =>
    simp only [restsUpTo, List.mem_cons, List.mem_flatMap, ih]
    constructor
    · rintro (rfl | ⟨middle, stepped, count, within, later⟩)
      · exact ⟨0, Nat.zero_le _, List.mem_singleton_self _⟩
      · exact ⟨count + 1, Nat.succ_le_succ within, List.mem_flatMap.2 ⟨middle, stepped, later⟩⟩
    · rintro ⟨_ | count, within, later⟩
      · exact .inl (List.mem_singleton.1 later)
      · obtain ⟨middle, stepped, later⟩ := List.mem_flatMap.1 later
        exact .inr ⟨middle, stepped, count, Nat.le_of_succ_le_succ within, later⟩

theorem Leaves.restsUpTo {step : List Char → List (List Char)} {P : List Char → Prop}
    (leaves : Leaves step P) (bound : Nat) :
    Leaves (restsUpTo step bound) (InParts P (· ≤ bound)) := by
  intro text rest
  simp only [mem_restsUpTo_iff, leaves.restsExactly _ text rest]
  constructor
  · rintro ⟨_, within, x, ⟨parts, each, rfl, whole⟩, behind⟩
    exact ⟨x, ⟨parts, each, within, whole⟩, behind⟩
  · rintro ⟨x, ⟨parts, each, within, whole⟩, behind⟩
    exact ⟨_, within, x, ⟨parts, each, rfl, whole⟩, behind⟩

/-- The parts of a repetition are the least number of them and some more. -/
theorem leaves_times {least : Nat} {most : Option Nat}
    (ordered : ∀ bound, most = some bound → least ≤ bound) (leaves : Leaves p.rests (Matches p)) :
    Leaves (times least most p).rests (Matches (times least most p)) := by
  intro text rest
  have parted := (leaves.restsExactly least).flatMap
    (leaves.restsUpTo (most.getD (least + text.length) - least)) text rest
  simp only [inParts_append_iff] at parted
  rw [rests, parted]
  refine exists_congr fun x => and_congr_left fun whole => ?_
  rw [matches_times_iff]
  cases most with
  | some bound =>
    have inOrder := ordered bound rfl
    have same (n : Nat) : least ≤ n ∧ n - least ≤ bound - least ↔
        least ≤ n ∧ WithinMost n (some bound) := by
      simp only [WithinMost, Option.some.injEq, forall_eq']
      omega
    simp only [Option.getD_some, same]
  | none =>
    -- Without an upper bound there may be more parts than characters, but then fewer will do.
    constructor
    · rintro ⟨parts, each, ⟨enough, -⟩, rfl⟩
      exact ⟨parts, each, ⟨enough, nofun⟩, rfl⟩
    · rintro ⟨parts, each, ⟨enough, -⟩, rfl⟩
      obtain ⟨few, each_few, ⟨some_few, short⟩, same⟩ := InParts.few ⟨parts, each, enough, rfl⟩
      refine ⟨few, each_few, ⟨some_few, ?_⟩, same⟩
      rw [Option.getD_none, whole, List.length_append]
      omega

/-- What the matcher leaves behind a match is what stands behind a text that matches. -/
theorem leaves_rests (ordered : p.isOrdered) : Leaves p.rests (Matches p) := by
  induction p with
  | empty => exact Leaves.here.congr fun x => matches_empty_iff.symm
  | oneOf set =>
    intro text rest
    simp only [matches_oneOf_iff]
    cases text with
    | nil => simp [rests]
    | cons c text =>
      rw [rests]
      constructor
      · intro mem
        split_ifs at mem with member
        · rw [List.mem_singleton.1 mem]
          exact ⟨[c], ⟨c, rfl, member⟩, rfl⟩
        · cases mem
      · rintro ⟨_, ⟨d, rfl, member⟩, same⟩
        obtain ⟨rfl, rfl⟩ := List.cons.inj same
        rw [if_pos member]
        exact List.mem_singleton_self _
  | seq p q first second =>
    obtain ⟨ordered_p, ordered_q⟩ := Bool.and_eq_true_iff.1 ordered
    exact ((first ordered_p).flatMap (second ordered_q)).congr fun x => matches_seq_iff.symm
  | either p q first second =>
    intro text rest
    obtain ⟨ordered_p, ordered_q⟩ := Bool.and_eq_true_iff.1 ordered
    rw [rests, List.mem_append, first ordered_p text, second ordered_q text, ← exists_or]
    simp only [matches_either_iff, or_and_right]
  | times least most p ih =>
    obtain ⟨bounds, ordered⟩ := Bool.and_eq_true_iff.1 ordered
    refine leaves_times ?_ (ih ordered)
    rintro bound rfl
    simpa using bounds

/-- A pattern accepts the texts that match it. -/
theorem accepts_iff (ordered : p.isOrdered) : p.accepts text = true ↔ Matches p text := by
  rw [accepts, List.any_eq_true]
  simp only [leaves_rests ordered text, List.isEmpty_iff]
  constructor
  · rintro ⟨_, ⟨x, matched, rfl⟩, rfl⟩
    rwa [List.append_nil]
  · intro matched
    exact ⟨[], ⟨text, matched, (List.append_nil text).symm⟩, rfl⟩

end FormatConformance.Pattern
