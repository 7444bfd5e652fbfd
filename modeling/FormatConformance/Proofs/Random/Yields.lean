import FormatConformance.Proofs.Text.Utf8
import FormatConformance.Random.Generator
import Mathlib.Data.List.Basic

/-!
# What a generator yields

`Yields` says that every value of a generator has a property, whatever the tape and wherever on it
the generator starts. It is passed on by a bind (`Yields.bind`), and each combinator keeps its
promise: a choice from a list is a member, a list is within its bound, and what is generated from a
pattern matches the pattern (`yields_matching`) as long as there is something to choose at every
place (`Pattern.fruitful`).
-/

namespace FormatConformance

namespace Random.Generator

variable {α β : Type} {g : Generator α} {P Q : α → Prop} {R : β → Prop}

/-- Every value of the generator has the property. -/
def Yields (g : Generator α) (P : α → Prop) : Prop :=
  ∀ tape position, P (g tape position).1

theorem Yields.pure {a : α} (holds : P a) : Yields (pure a) P :=
  fun _ _ => holds

theorem Yields.bind {f : α → Generator β} (first : Yields g P)
    (later : ∀ a, P a → Yields (f a) R) : Yields (g >>= f) R :=
  fun tape position => later _ (first tape position) tape (g tape position).2

theorem Yields.imp (yields : Yields g P) (weaker : ∀ a, P a → Q a) : Yields g Q :=
  fun tape position => weaker _ (yields tape position)

theorem yields_any (g : Generator α) : Yields g fun _ => True :=
  fun _ _ => trivial

/-! ## Choices and lists -/

theorem yields_member (values : List α) (nonempty : 0 < values.length) :
    Yields (member values nonempty) (· ∈ values) :=
  (yields_any (upTo (values.length - 1))).bind fun _ _ => .pure (List.get_mem values _)

theorem yields_inShare {others : List (Nat × Generator α)} (first : Yields g P)
    (each : ∀ other ∈ others, Yields other.2 P) (number : Nat) :
    Yields (inShare g others number) P := by
  induction others generalizing number with
  | nil => exact first
  | cons other others ih =>
    obtain ⟨head, tail⟩ := List.forall_mem_cons.1 each
    rw [inShare]
    split_ifs with within
    · exact head
    · exact ih tail _

theorem yields_weighted {weight : Nat} {others : List (Nat × Generator α)} (first : Yields g P)
    (each : ∀ other ∈ others, Yields other.2 P) : Yields (weighted weight g others) P :=
  (yields_any _).bind fun number _ =>
    yields_inShare first (List.forall_mem_cons.2 ⟨first, each⟩) number

theorem yields_copies (each : Yields g P) (count : Nat) :
    Yields (copies g count) fun values => values.length = count ∧ ∀ a ∈ values, P a := by
  induction count with
  | zero => exact .pure ⟨rfl, by simp⟩
  | succ count ih =>
    refine each.bind fun a holds => ih.bind fun values ⟨length, others⟩ => .pure ?_
    exact ⟨congrArg (· + 1) length, List.forall_mem_cons.2 ⟨holds, others⟩⟩

theorem yields_listUpTo (bound : Nat) (each : Yields g P) :
    Yields (listUpTo bound g) fun values => values.length ≤ bound ∧ ∀ a ∈ values, P a := by
  refine (yields_any (upTo bound)).bind fun length _ => (yields_copies each length).imp ?_
  rintro values ⟨count, holds⟩
  exact ⟨count ▸ Nat.le_of_lt_succ length.isLt, holds⟩

end Random.Generator

/-! ## Patterns with something to choose

A pattern is fruitful when each of its sets has a member and no repetition asks for more parts than
it allows. Then whatever is drawn leads to a text that matches. -/

namespace CharSet

/-- There is a member, and every code point between the ends of a range is a character. -/
def fruitful (s : CharSet) : Bool :=
  !s.ranges.isEmpty && s.ranges.all fun range =>
    range.1 ≤ range.2 && (range.2 < 0xd800 || 0xdfff < range.1 && range.2 ≤ top)

/-- Every position up to the size has a member. -/
theorem exists_memberAt? {ranges : List (Nat × Nat)}
    (characters : ∀ range ∈ ranges,
      range.1 ≤ range.2 ∧ (range.2 < 0xd800 ∨ 0xdfff < range.1 ∧ range.2 ≤ top))
    {index : Nat} (within : index < size ⟨ranges⟩) :
    ∃ c, memberAt? ranges index = some c ∧ contains ⟨ranges⟩ c := by
  induction ranges generalizing index with
  | nil => simp [size] at within
  | cons range ranges ih =>
    obtain ⟨low, high⟩ := range
    obtain ⟨⟨ordered, valid⟩, others⟩ := List.forall_mem_cons.1 characters
    by_cases here : low + index ≤ high
    · have number : (Char.ofNat (low + index)).toNat = low + index := by
        refine Text.toNat_ofNat (Text.isValidChar_iff.2 ?_)
        rw [top] at valid
        omega
      refine ⟨Char.ofNat (low + index), by rw [memberAt?, if_pos here], ?_⟩
      simp [contains, number, here]
    · -- The members of this range are skipped, and the index counts on from the next one.
      have smaller : index - (high + 1 - low) < size ⟨ranges⟩ := by
        simp only [size, List.foldr_cons] at within ⊢
        omega
      obtain ⟨c, found, member⟩ := ih others smaller
      refine ⟨c, by rw [memberAt?, if_neg here, found], ?_⟩
      simp only [contains, List.any_cons, Bool.or_eq_true] at member ⊢
      exact .inr member

theorem exists_memberAt?_of_fruitful {s : CharSet} (fruitful : s.fruitful) (index : Nat)
    (within : index ≤ s.size - 1) :
    ∃ c, memberAt? s.ranges index = some c ∧ s.contains c := by
  obtain ⟨ranges⟩ := s
  obtain ⟨some_range, each⟩ := Bool.and_eq_true_iff.1 fruitful
  have characters : ∀ range ∈ ranges,
      range.1 ≤ range.2 ∧ (range.2 < 0xd800 ∨ 0xdfff < range.1 ∧ range.2 ≤ top) := by
    simpa using each
  -- A range that is not empty has a member, so there is something to choose.
  have positive : 0 < size ⟨ranges⟩ := by
    cases ranges with
    | nil => cases some_range
    | cons range ranges =>
      have ordered := (characters range (.head _)).1
      simp only [size, List.foldr_cons]
      omega
  exact exists_memberAt? characters (by omega)

end CharSet

namespace Pattern

/-- There is a member in every set, and no repetition must be made more often than it may. -/
def fruitful : Pattern → Bool
  | empty => true
  | oneOf set => set.fruitful
  | seq p q => p.fruitful && q.fruitful
  | either p q => p.fruitful && q.fruitful
  | times least most p => decide (least ≤ most.getD least) && p.fruitful

end Pattern

namespace Random.Generator

/-- What is generated from a pattern matches it. -/
theorem yields_matching {p : Pattern} (fruitful : p.fruitful) :
    Yields (matching p) (Pattern.Matches p) := by
  induction p with
  | empty => exact .pure .empty
  | oneOf set =>
    refine (yields_any (upTo (set.size - 1))).bind fun index _ => .pure ?_
    obtain ⟨c, found, member⟩ :=
      CharSet.exists_memberAt?_of_fruitful fruitful index (Nat.le_of_lt_succ index.isLt)
    rw [found]
    exact .oneOf member
  | seq p q first second =>
    obtain ⟨left, right⟩ := Bool.and_eq_true_iff.1 fruitful
    exact (first left).bind fun x head => (second right).bind fun y tail => .pure (.seq head tail)
  -- Either alternative can be drawn, and what it yields is enough.
  | either p q first second =>
    obtain ⟨left, right⟩ := Bool.and_eq_true_iff.1 fruitful
    exact yields_weighted ((first left).imp fun _ => .first)
      (List.forall_mem_singleton.2 ((second right).imp fun _ => .second))
  | times least most p ih =>
    obtain ⟨possible, body⟩ := Bool.and_eq_true_iff.1 fruitful
    -- Without an upper bound the generator takes the least number of parts.
    have possible : least ≤ most.getD least := of_decide_eq_true possible
    refine (yields_any (upTo _)).bind fun more _ => (yields_copies (ih body) _).bind ?_
    rintro parts ⟨length, each⟩
    refine .pure (.times each (by omega) ?_)
    rintro bound rfl
    have within := Nat.le_of_lt_succ more.isLt
    simp only [Option.getD_some] at possible within
    omega

end Random.Generator

end FormatConformance
