import FormatConformance.Pattern.CharSet

/-!
# Patterns

Regular grammars of texts: which texts match a pattern, as a relation, and a matcher that finds all
ways to take a match off the front of a text.
-/

namespace FormatConformance

/-- A regular grammar. -/
inductive Pattern
  /-- The empty text. -/
  | empty
  /-- One character of a set. -/
  | oneOf (set : CharSet)
  | seq (first second : Pattern)
  | either (first second : Pattern)
  /-- At least so many matches in a row, and at most so many. -/
  | times (least : Nat) (most : Option Nat) (body : Pattern)
  deriving DecidableEq, Repr

namespace Pattern

/-- A sequence of patterns. -/
def sequence : List Pattern → Pattern
  | [] => empty
  | [p] => p
  | p :: rest => seq p (sequence rest)

/-- A choice between patterns, of which there is at least one. -/
def choice (p : Pattern) : List Pattern → Pattern
  | [] => p
  | q :: rest => either p (choice q rest)

/-- A pattern that may be left out. -/
def opt (p : Pattern) : Pattern :=
  times 0 (some 1) p

/-- Whether a number of repetitions is not too great. -/
def WithinMost (count : Nat) (most : Option Nat) : Prop :=
  ∀ bound, most = some bound → count ≤ bound

/-- A text matches a pattern. -/
inductive Matches : Pattern → List Char → Prop
  | empty : Matches empty []
  | oneOf {set : CharSet} {c : Char} : set.contains c = true → Matches (oneOf set) [c]
  | seq {p q : Pattern} {x y : List Char} : Matches p x → Matches q y → Matches (seq p q) (x ++ y)
  | first {p q : Pattern} {x : List Char} : Matches p x → Matches (either p q) x
  | second {p q : Pattern} {x : List Char} : Matches q x → Matches (either p q) x
  | times {least : Nat} {most : Option Nat} {p : Pattern} {parts : List (List Char)} :
    (∀ x ∈ parts, Matches p x) → least ≤ parts.length → WithinMost parts.length most →
      Matches (times least most p) parts.flatten

/-- Whether a pattern matches the empty text or nothing. -/
def isVoid : Pattern → Bool
  | empty => true
  | oneOf _ => false
  | seq p q => p.isVoid && q.isVoid
  | either p q => p.isVoid && q.isVoid
  | times _ most p => most = some 0 || p.isVoid

/-- What matches a void pattern is empty. -/
theorem eq_nil_of_isVoid {p : Pattern} {x : List Char} (void : p.isVoid = true)
    (matched : Matches p x) : x = [] := by
  induction matched with
  | empty => rfl
  | oneOf => simp [isVoid] at void
  | seq _ _ first second =>
    simp only [isVoid, Bool.and_eq_true] at void
    rw [first void.1, second void.2, List.append_nil]
  | first _ ih =>
    simp only [isVoid, Bool.and_eq_true] at void
    exact ih void.1
  | second _ ih =>
    simp only [isVoid, Bool.and_eq_true] at void
    exact ih void.2
  | @times least most p parts _ _ within each =>
    simp only [isVoid, Bool.or_eq_true, decide_eq_true_eq] at void
    rcases void with none | void
    · rw [List.length_eq_zero_iff.mp (Nat.le_zero.mp (within 0 none)), List.flatten_nil]
    · rw [List.flatten_eq_nil_iff]
      exact fun x mem => each x mem void

/-! ## Matching -/

/-- What may stand behind an exact number of matches. -/
def restsExactly (step : List Char → List (List Char)) : Nat → List Char → List (List Char)
  | 0, text => [text]
  | n + 1, text => (step text).flatMap (restsExactly step n)

/-- What may stand behind up to a number of matches. -/
def restsUpTo (step : List Char → List (List Char)) : Nat → List Char → List (List Char)
  | 0, text => [text]
  | n + 1, text => text :: (step text).flatMap (restsUpTo step n)

/-- What may stand behind a match at the front of a text. A match that is repeated without bound
takes at least one character each time, so that the length of the text bounds it. -/
def rests : Pattern → List Char → List (List Char)
  | empty, text => [text]
  | oneOf _, [] => []
  | oneOf set, c :: text => if set.contains c then [text] else []
  | seq p q, text => (rests p text).flatMap (rests q)
  | either p q, text => rests p text ++ rests q text
  | times least most p, text =>
    (restsExactly (rests p) least text).flatMap fun rest =>
      restsUpTo (rests p) (most.getD (least + text.length) - least) rest

/-- Whether a text matches a pattern. -/
def accepts (p : Pattern) (text : List Char) : Bool :=
  (p.rests text).any List.isEmpty

end Pattern

end FormatConformance
