import FormatConformance.Pattern.Reader
import FormatConformance.Proofs.Numeral
import FormatConformance.Proofs.Pattern.Matching
import Mathlib.Data.List.Fold
import Mathlib.Data.List.MinMax

/-!
# Reading what is written out

Single characters, choices and repetitions have a plain way to be written down (`Term.text`): signs
of the notation stand behind a backslash, and every choice and every repeated part stands in a group
that is not counted. Here it is shown that the reader takes such a text for what it was written for,
so that the pattern it finds accepts just the texts that are meant (`exists_read?_text`).

Reading and meaning are kept apart. The reader pushes the items of a term one after the other, with
whatever stands behind the text still to be read (`readItems?_text`); no pattern is looked at there.
What the items mean is then a matter of the patterns alone (`exists_patterns`). The reader leaves
out repetitions that say nothing, so the pattern that is read is not the pattern that was written,
but one that matches the same texts (`Same`).
-/

namespace FormatConformance.Pattern

/-- A pattern as it is written down. -/
inductive Term
  | nothing
  | char (c : Char)
  | seq (first second : Term)
  | either (first second : Term)
  | times (least : Nat) (most : Option Nat) (body : Term)

namespace Term

/-- The signs that stand for themselves only behind a backslash. -/
def signs : List Char :=
  ['(', ')', '|', '[', '?', '*', '+', '\x7b', '^', '$', '.', '\\']

/-- A group that is not counted. -/
def group (inside : List Char) : List Char :=
  '(' :: '?' :: ':' :: (inside ++ [')'])

/-- The bounds of a repetition behind their brace. -/
def bounds (least : Nat) (most : Option Nat) : List Char :=
  Numeral.decimal least ++ ',' :: (most.elim [] Numeral.decimal ++ ['\x7d'])

/-- The text of a term. -/
def text : Term → List Char
  | nothing => []
  | char c => if c ∈ signs then ['\\', c] else [c]
  | seq first second => first.text ++ second.text
  | either first second => group (first.text ++ '|' :: second.text)
  | times least most body => group body.text ++ '\x7b' :: bounds least most

/-- The pattern that a term stands for. -/
def pattern : Term → Pattern
  | nothing => .empty
  | char c => .oneOf (.singleton c)
  | seq first second => .seq first.pattern second.pattern
  | either first second => .either first.pattern second.pattern
  | times least most body => .times least most body.pattern

/-- How deeply the text of a term is nested. Alternatives are sequences in a choice in a group, and
a repetition has a sequence in a group. -/
def depth : Term → Nat
  | nothing => 0
  | char _ => 0
  | seq first second => max first.depth second.depth
  | either first second => max first.depth second.depth + 3
  | times _ _ body => body.depth + 3

/-- The bounds of a repetition are in order and can be written. The greatest number that can be
read cannot be used as an upper bound. -/
def Fits : Term → Prop
  | nothing => True
  | char _ => True
  | seq first second => first.Fits ∧ second.Fits
  | either first second => first.Fits ∧ second.Fits
  | times least most body => least ≤ Numeral.maxWord32 ∧
      (∀ bound, most = some bound → least ≤ bound ∧ bound < Numeral.maxWord32) ∧ body.Fits

end Term

namespace Reader

variable {s : State} {text rest : List Char} {t : Term}

/-! ## The items of a term

The reader keeps what it has read as a stack of items, the last one on top. `parts` are the items of
a term in the order in which they stand, so they are pushed in reverse. -/

/-- A sequence of parts. -/
def together (parts : List Part) : Part :=
  Frame.sequence ⟨[], (parts.map Item.part).reverse, .initial⟩

/-- A group of alternatives. -/
def grouped (alternatives : List Part) : Part :=
  ⟨choiceOf alternatives, depthTogether (alternatives.map Part.depth) + 1⟩

/-- The parts that the reader makes of the text of a term. -/
def parts : Term → List Part
  | .nothing => []
  | .char c => [⟨some (.oneOf (.singleton c)), 0⟩]
  | .seq first second => parts first ++ parts second
  | .either first second => [grouped [together (parts first), together (parts second)]]
  | .times least most body =>
    let inside := grouped [together (parts body)]
    [⟨repeated least most inside.fragment, inside.depth + 1⟩]

/-- The state with some more parts. -/
def State.pushAll (s : State) (parts : List Part) : State :=
  { s with frame := { s.frame with items := (parts.map Item.part).reverse ++ s.frame.items } }

/-- How many steps the reader takes for the text of a term. -/
def steps : Term → Nat
  | .nothing => 0
  | .char _ => 1
  | .seq first second => steps first + steps second
  | .either first second => steps first + steps second + 3
  | .times _ _ body => steps body + 3

theorem State.pushAll_append (s : State) (first second : List Part) :
    s.pushAll (first ++ second) = (s.pushAll first).pushAll second := by
  simp [pushAll]

@[simp] theorem State.pushAll_flags (s : State) (parts : List Part) :
    (s.pushAll parts).flags = s.flags := rfl

theorem steps_le (t : Term) : steps t ≤ t.text.length := by
  induction t with
  | nothing => exact Nat.le_refl 0
  | char c =>
    rw [Term.text]
    split_ifs <;> simp [steps]
  | seq first second ih ih' =>
    rw [Term.text, List.length_append]
    exact Nat.add_le_add ih ih'
  | either first second ih ih' =>
    simp only [Term.text, Term.group, steps, List.length_cons, List.length_append]
    omega
  | times least most body ih =>
    simp only [Term.text, Term.group, steps, List.length_cons, List.length_append]
    omega

/-! ## Steps of the reader

Each sign of the notation changes the state in one way. The steps are stated for the flags that the
reader starts with, since no text of a term sets any. -/

theorem readItems?_cons {c : Char} {s' : State} {text' : List Char}
    (step : step? s c text = some (s', text')) (plain : s.flags = .initial) (fuel : Nat) :
    readItems? (fuel + 1) s (c :: text) = readItems? fuel s' text' := by
  rw [readItems?, Flags.skip_of_not_verbose (by rw [plain]; rfl)]
  simp only [step]

theorem step?_char (plain : s.flags = .initial) {c : Char} (literal : c ∉ Term.signs) :
    step? s c rest = some (s.pushAll [⟨some (.oneOf (.singleton c)), 0⟩], rest) := by
  simp only [Term.signs, List.mem_cons, List.not_mem_nil, or_false, not_or] at literal
  simp [step?, literal, pushChar, folded, plain, Flags.initial, State.pushFragment, State.push,
    State.pushAll]

theorem escape_sign {c : Char} (sign : c ∈ Term.signs) (f : Flags) :
    Escape.read? f (c :: rest) = some (.char c, rest) := by
  simp only [Term.signs, List.mem_cons, List.not_mem_nil, or_false] at sign
  rcases sign with rfl | rfl | rfl | rfl | rfl | rfl | rfl | rfl | rfl | rfl | rfl | rfl <;> rfl

theorem step?_escaped (plain : s.flags = .initial) {c : Char} (sign : c ∈ Term.signs) :
    step? s '\\' (c :: rest) = some (s.pushAll [⟨some (.oneOf (.singleton c)), 0⟩], rest) := by
  simp [step?, escape_sign sign, pushChar, folded, plain, Flags.initial, State.pushFragment,
    State.push, State.pushAll]

/-- The state inside a group, behind some alternatives and some parts of the next one. -/
def State.inside (s : State) (alternatives parts : List Part) : State :=
  { s with frame := ⟨alternatives, (parts.map Item.part).reverse, s.flags⟩,
           outer := s.frame :: s.outer }

theorem State.pushAll_inside (s : State) (alternatives parts : List Part) :
    (s.inside alternatives []).pushAll parts = s.inside alternatives parts := by
  simp [inside, pushAll]

theorem step?_open (plain : s.flags = .initial) :
    step? s '(' ('?' :: ':' :: rest) = some (s.inside [] [], rest) := by
  simp [step?, openGroup?, Flags.skip_of_not_verbose, plain, Flags.initial, Flags.update?,
    State.enter, State.inside, Frame.start]

theorem step?_alternative (s : State) (alternatives parts : List Part) :
    step? (s.inside alternatives parts) '|' rest =
      some (s.inside (together parts :: alternatives) [], rest) := rfl

theorem step?_close (s : State) (alternatives parts : List Part) :
    step? (s.inside alternatives parts) ')' rest =
      some (s.pushAll [grouped (alternatives.reverse ++ [together parts])], rest) := rfl

/-! ## Repetitions -/

theorem exists_digit_decimal (n : Nat) : ∃ c others, Numeral.decimal n = c :: others ∧
    c.isDigit = true ∧ Text.isBlank c = false := by
  obtain ⟨c, others, spelled⟩ := List.exists_cons_of_ne_nil (Numeral.digits_ne_nil 10 n)
  have mem : c ∈ Numeral.decimal n := by
    rw [Numeral.decimal, spelled]
    exact .head _
  exact ⟨c, others, spelled, Numeral.isDigit_of_mem_decimal mem,
    Numeral.forall_mem_digits (P := (Text.isBlank · = false)) (by decide) (by decide) n c mem⟩

/-- A number is read up to a sign that is neither a digit nor white space. -/
theorem readNumber?_decimal {n : Nat} (fits : n ≤ Numeral.maxWord32) {c : Char}
    (stops : c.isDigit = false) (visible : Text.isBlank c = false) :
    readNumber? .initial (Numeral.decimal n ++ c :: rest) = some (n, c :: rest) := by
  have digits : ∀ d ∈ Numeral.decimal n, d.isDigit = true := fun d =>
    Numeral.isDigit_of_mem_decimal
  have split : (Numeral.decimal n ++ c :: rest).span Char.isDigit =
      (Numeral.decimal n, c :: rest) := by
    rw [List.span_eq_takeWhile_dropWhile, List.takeWhile_append_of_pos digits,
      List.dropWhile_append_of_pos digits]
    simp [stops]
  obtain ⟨first, others, spelled, -, solid⟩ := exists_digit_decimal n
  -- The reader looks for white space first. A number has a digit at its front, so none is there.
  have trimmed : (Numeral.decimal n ++ c :: rest).dropWhile Text.isBlank =
      Numeral.decimal n ++ c :: rest := by
    rw [spelled]
    simp [solid]
  have nonempty : (Numeral.decimal n).isEmpty = false := by
    rw [spelled]
    rfl
  simp only [readNumber?, Flags.span, trimmed, split]
  simp [Flags.initial, Numeral.readUnsigned_decimal fits, visible, nonempty]

theorem readBounds?_bounds {least : Nat} {most : Option Nat} (fits : least ≤ Numeral.maxWord32)
    (ordered : ∀ bound, most = some bound → least ≤ bound ∧ bound < Numeral.maxWord32) :
    readBounds? .initial (Term.bounds least most ++ rest) = some ((least, most), rest) := by
  have low : readNumber? .initial (Term.bounds least most ++ rest) =
      some (least, ',' :: (most.elim [] Numeral.decimal ++ ['\x7d'] ++ rest)) := by
    rw [Term.bounds, List.append_assoc, List.cons_append]
    exact readNumber?_decimal fits (by decide) (by decide)
  rw [readBounds?, Flags.skip_of_not_verbose rfl, low]
  simp only [Option.bind_eq_bind, Option.bind_some, Flags.skip_of_not_verbose (f := .initial) rfl]
  cases most with
  | none => rfl
  | some bound =>
    obtain ⟨above, below⟩ := ordered bound rfl
    obtain ⟨first, others, spelled, digit, -⟩ := exists_digit_decimal bound
    have high : readNumber? .initial (Numeral.decimal bound ++ '\x7d' :: rest) =
        some (bound, '\x7d' :: rest) :=
      readNumber?_decimal (Nat.le_of_lt below) (by decide) (by decide)
    -- A digit stands behind the comma, so that the reader looks for an upper bound.
    have more : first ≠ '\x7d' := by
      rintro rfl
      cases digit
    rw [spelled] at high
    simp only [Option.elim_some, spelled, List.cons_append, List.append_assoc,
      List.nil_append] at high ⊢
    simp [more, high, above]

theorem step?_bounds (plain : s.flags = .initial) {least : Nat} {most : Option Nat}
    (fits : least ≤ Numeral.maxWord32)
    (ordered : ∀ bound, most = some bound → least ≤ bound ∧ bound < Numeral.maxWord32)
    (eager : behindLazy rest = rest) (part : Part) :
    step? (s.pushAll [part]) '\x7b' (Term.bounds least most ++ rest) =
      some (s.pushAll [⟨repeated least most part.fragment, part.depth + 1⟩], rest) := by
  have found : readBounds? .initial (Term.bounds least most ++ rest) =
      some ((least, most), rest) := readBounds?_bounds fits ordered
  simp only [step?, State.pushAll_flags, plain, found, Option.bind_eq_bind, Option.bind_some,
    Flags.skip_of_not_verbose (f := .initial) rfl, eager]
  rfl

/-! ## Reading a term -/

/-- No text of a term starts like a mark of laziness. -/
theorem behindLazy_text (eager : behindLazy rest = rest) (t : Term) :
    behindLazy (t.text ++ rest) = t.text ++ rest := by
  induction t generalizing rest with
  | nothing => exact eager
  | char c =>
    rw [Term.text]
    split_ifs with sign
    · rfl
    · have other : c ≠ '?' := fun same => sign (same ▸ by decide)
      simp [behindLazy, other]
  | seq first second ih ih' =>
    rw [Term.text, List.append_assoc]
    exact ih (ih' eager)
  | either => rfl
  | times => rfl

/-- The reader pushes the parts of a term and goes on with what stands behind it. -/
theorem readItems?_text (fits : t.Fits) (plain : s.flags = .initial)
    (eager : behindLazy rest = rest) (fuel : Nat) :
    readItems? (fuel + steps t) s (t.text ++ rest) =
      readItems? fuel (s.pushAll (parts t)) rest := by
  induction t generalizing s rest fuel with
  | nothing => rfl
  | char c =>
    rw [Term.text]
    split_ifs with sign
    · exact readItems?_cons (step?_escaped plain sign) plain fuel
    · exact readItems?_cons (step?_char plain sign) plain fuel
  | seq first second ih ih' =>
    calc
      _ = readItems? (fuel + steps second + steps first) s
          (first.text ++ (second.text ++ rest)) := by
        rw [Term.text, List.append_assoc, steps, Nat.add_assoc, Nat.add_comm (steps second)]
      _ = readItems? (fuel + steps second) (s.pushAll (parts first)) (second.text ++ rest) :=
        ih fits.1 plain (behindLazy_text eager second) _
      _ = readItems? fuel ((s.pushAll (parts first)).pushAll (parts second)) rest :=
        ih' (s := s.pushAll (parts first)) fits.2 plain eager fuel
      _ = _ := by rw [parts, State.pushAll_append]
  | either first second ih ih' =>
    -- One step opens the group, one ends the first alternative and one closes the group.
    have order : fuel + steps (.either first second) =
        fuel + 1 + steps second + 1 + steps first + 1 := by
      rw [steps]
      omega
    have layout : (Term.either first second).text ++ rest =
        '(' :: '?' :: ':' :: (first.text ++ '|' :: (second.text ++ ')' :: rest)) := by
      simp [Term.text, Term.group]
    calc
      _ = readItems? (fuel + 1 + steps second + 1 + steps first) (s.inside [] [])
          (first.text ++ '|' :: (second.text ++ ')' :: rest)) := by
        rw [order, layout, readItems?_cons (step?_open plain) plain]
      _ = readItems? (fuel + 1 + steps second + 1) (s.inside [] (parts first))
          ('|' :: (second.text ++ ')' :: rest)) := by
        rw [ih (s := s.inside [] []) fits.1 plain rfl, State.pushAll_inside]
      _ = readItems? (fuel + 1 + steps second) (s.inside [together (parts first)] [])
          (second.text ++ ')' :: rest) :=
        readItems?_cons (step?_alternative ..) plain _
      _ = readItems? (fuel + 1) (s.inside [together (parts first)] (parts second))
          (')' :: rest) := by
        rw [ih' (s := s.inside [together (parts first)] []) fits.2 plain rfl, State.pushAll_inside]
      _ = _ := readItems?_cons (step?_close ..) plain fuel
  | times least most body ih =>
    obtain ⟨small, ordered, fits⟩ := fits
    -- The group is closed before its bounds are read, and then they are applied to it.
    have order : fuel + steps (.times least most body) = fuel + 1 + 1 + steps body + 1 := by
      rw [steps]
      omega
    have layout : (Term.times least most body).text ++ rest =
        '(' :: '?' :: ':' :: (body.text ++ ')' :: '\x7b' :: (Term.bounds least most ++ rest)) := by
      simp [Term.text, Term.group]
    calc
      _ = readItems? (fuel + 1 + 1 + steps body) (s.inside [] [])
          (body.text ++ ')' :: '\x7b' :: (Term.bounds least most ++ rest)) := by
        rw [order, layout, readItems?_cons (step?_open plain) plain]
      _ = readItems? (fuel + 1 + 1) (s.inside [] (parts body))
          (')' :: '\x7b' :: (Term.bounds least most ++ rest)) := by
        rw [ih (s := s.inside [] []) fits plain rfl, State.pushAll_inside]
      _ = readItems? (fuel + 1) (s.pushAll [grouped [together (parts body)]])
          ('\x7b' :: (Term.bounds least most ++ rest)) :=
        readItems?_cons (step?_close ..) plain _
      _ = _ := readItems?_cons (step?_bounds plain small ordered eager _) plain fuel

/-! ## What the items mean

From here on nothing is read any more. Patterns are compared by the texts that match them, because
the reader puts other patterns together than those that were written. -/

/-- A pattern that the matcher handles and that matches the same texts as another. -/
structure Same (p q : Pattern) : Prop where
  ordered : p.isOrdered = true
  matches_iff : ∀ x, Matches p x ↔ Matches q x

theorem matches_sequence_cons {p : Pattern} {ps : List Pattern} {x : List Char} :
    Matches (sequence (p :: ps)) x ↔ ∃ y z, x = y ++ z ∧ Matches p y ∧ Matches (sequence ps) z := by
  simp only [matches_sequence_iff]
  constructor
  · rintro ⟨texts, each, rfl⟩
    obtain ⟨y, others, first, later, rfl⟩ := List.forall₂_cons_left_iff.1 each
    exact ⟨y, others.flatten, List.flatten_cons, first, others, later, rfl⟩
  · rintro ⟨y, _, rfl, first, others, later, rfl⟩
    exact ⟨y :: others, .cons first later, List.flatten_cons.symm⟩

theorem matches_sequence_append {ps qs : List Pattern} {x : List Char} :
    Matches (sequence (ps ++ qs)) x ↔
      ∃ y z, x = y ++ z ∧ Matches (sequence ps) y ∧ Matches (sequence qs) z := by
  induction ps generalizing x with
  | nil =>
    constructor
    · intro matched
      exact ⟨[], x, rfl, .empty, matched⟩
    · rintro ⟨_, z, rfl, ⟨⟩, matched⟩
      exact matched
  | cons p ps ih =>
    simp only [List.cons_append, matches_sequence_cons, ih]
    constructor
    · rintro ⟨w, _, rfl, first, y, z, rfl, later, last⟩
      exact ⟨w ++ y, z, (List.append_assoc ..).symm, ⟨w, y, rfl, first, later⟩, last⟩
    · rintro ⟨_, z, rfl, ⟨w, y, rfl, first, later⟩, last⟩
      exact ⟨w, y ++ z, List.append_assoc .., first, y, z, rfl, later, last⟩

theorem isOrdered_sequence (ps : List Pattern) : (sequence ps).isOrdered = ps.all isOrdered := by
  induction ps with
  | nil => rfl
  | cons p ps ih =>
    cases ps with
    | nil => simp [sequence]
    | cons q ps =>
      rw [sequence, isOrdered, ih, List.all_cons (a := p)]
      simp

/-! ### Repetitions that say nothing -/

theorem isOrdered_times {p : Pattern} {least : Nat} {most : Option Nat} (ordered : p.isOrdered)
    (inOrder : ∀ bound, most = some bound → least ≤ bound) : (times least most p).isOrdered := by
  cases most with
  | none => simpa [isOrdered] using ordered
  | some bound => simpa [isOrdered, ordered] using inOrder bound rfl

theorem matches_times_zero {p : Pattern} {x : List Char} :
    Matches (times 0 (some 0) p) x ↔ x = [] := by
  have none_left (n : Nat) : 0 ≤ n ∧ WithinMost n (some 0) ↔ n = 0 := by
    simp [WithinMost]
  simp only [matches_times_iff, none_left, inParts_zero_iff]

theorem matches_times_one {p : Pattern} {x : List Char} :
    Matches (times 1 (some 1) p) x ↔ Matches p x := by
  have single (n : Nat) : 1 ≤ n ∧ WithinMost n (some 1) ↔ n = 1 := by
    simp only [WithinMost, Option.some.injEq, forall_eq']
    omega
  simp only [matches_times_iff, single, inParts_one_iff]

/-- Of parts that are empty one is as good as many. -/
theorem matches_times_of_isVoid {p : Pattern} {least : Nat} {most : Option Nat} {x : List Char}
    (void : p.isVoid) (inOrder : ∀ bound, most = some bound → least ≤ bound) :
    Matches (times least most p) x ↔ x = [] ∧ (least = 0 ∨ Matches p []) := by
  rw [matches_times_iff]
  constructor
  · rintro ⟨texts, each, ⟨enough, -⟩, rfl⟩
    have nothing (y : List Char) (mem : y ∈ texts) : y = [] := eq_nil_of_isVoid void (each y mem)
    refine ⟨List.flatten_eq_nil_iff.2 nothing, ?_⟩
    cases texts with
    | nil => exact .inl (Nat.le_zero.1 enough)
    | cons y texts =>
      have first := each y (.head _)
      rw [nothing y (.head _)] at first
      exact .inr first
  · rintro ⟨rfl, rfl | matched⟩
    · exact ⟨[], List.forall_mem_nil _, ⟨le_rfl, fun _ _ => Nat.zero_le _⟩, rfl⟩
    · -- The empty text is taken just as often as is asked for.
      refine ⟨List.replicate least [], fun y mem => ?_, ?_, ?_⟩
      · rwa [List.eq_of_mem_replicate mem]
      · rw [List.length_replicate]
        exact ⟨le_rfl, inOrder⟩
      · simp

/-- One match is no repetition. -/
theorem exists_single {p : Pattern} (least : Nat) (most : Option Nat) (ordered : p.isOrdered)
    (inOrder : ∀ bound, most = some bound → least ≤ bound)
    (below : most ≠ some Numeral.maxWord32) :
    ∃ r, (if least = 1 ∧ most = some 1 then some p
      else if most = some Numeral.maxWord32 then none else some (times least most p)) = some r ∧
      Same r (times least most p) := by
  by_cases single : least = 1 ∧ most = some 1
  · obtain ⟨rfl, rfl⟩ := single
    exact ⟨p, by simp, ordered, fun x => matches_times_one.symm⟩
  · exact ⟨times least most p, by simp [single, below], isOrdered_times ordered inOrder,
      fun x => Iff.rfl⟩

theorem Same.trans {p q r : Pattern} (first : Same p q) (second : ∀ x, Matches q x ↔ Matches r x) :
    Same p r :=
  ⟨first.ordered, fun x => (first.matches_iff x).trans (second x)⟩

/-- Leaving out repetitions that say nothing does not change what matches. -/
theorem exists_repeated {p q : Pattern} {least : Nat} {most : Option Nat} (same : Same p q)
    (fits : ∀ bound, most = some bound → least ≤ bound ∧ bound < Numeral.maxWord32) :
    ∃ r, repeated least most (some p) = some r ∧ Same r (times least most q) := by
  have inOrder (bound : Nat) (h : most = some bound) : least ≤ bound := (fits bound h).1
  have below : most ≠ some Numeral.maxWord32 := fun h => Nat.lt_irrefl _ (fits _ h).2
  have congr (x : List Char) : Matches (times least most p) x ↔ Matches (times least most q) x := by
    simp only [matches_times_iff, InParts, same.matches_iff]
  -- The reader leaves out a part that is never taken, bounds of a single one, and for parts without
  -- text all but the first.
  by_cases never : most = some 0
  · obtain rfl := Nat.le_zero.1 (inOrder 0 never)
    subst never
    exact ⟨.empty, rfl, rfl, fun x => matches_empty_iff.trans matches_times_zero.symm⟩
  rw [repeated, if_neg never, Option.bind_some]
  cases void : p.isVoid with
  | false =>
    obtain ⟨r, found, holds⟩ := exists_single least most same.ordered inOrder below
    exact ⟨r, found, holds.trans congr⟩
  | true =>
    have once (bound : Nat) (h : some 1 = some bound) : min least 1 ≤ bound :=
      Option.some.inj h ▸ Nat.min_le_right ..
    obtain ⟨r, found, holds⟩ := exists_single (min least 1) (some 1) same.ordered once (by decide)
    refine ⟨r, found, holds.trans fun x => ?_⟩
    rw [← congr, matches_times_of_isVoid void once, matches_times_of_isVoid void inOrder]
    simp

/-! ### The whole term -/

theorem together_fragment (parts : List Part) :
    (together parts).fragment = (parts.mapM Part.fragment).map sequence := by
  simp [together, Frame.sequence, List.filterMap_map, Function.comp_def, Item.part?]

/-- The parts of a term have patterns that match in sequence what the term stands for. -/
theorem exists_patterns (fits : t.Fits) :
    ∃ ps, (parts t).mapM Part.fragment = some ps ∧ Same (sequence ps) t.pattern := by
  induction t with
  | nothing => exact ⟨[], rfl, rfl, fun x => Iff.rfl⟩
  | char c => exact ⟨[.oneOf (.singleton c)], rfl, rfl, fun x => Iff.rfl⟩
  | seq first second ih ih' =>
    obtain ⟨ps, found, same⟩ := ih fits.1
    obtain ⟨qs, found', same'⟩ := ih' fits.2
    refine ⟨ps ++ qs, by simp [parts, found, found'], ?_, fun x => ?_⟩
    · have ordered := same.ordered
      have ordered' := same'.ordered
      rw [isOrdered_sequence] at ordered ordered' ⊢
      rw [List.all_append, ordered, ordered']
      rfl
    · simp only [matches_sequence_append, Term.pattern, matches_seq_iff, same.matches_iff,
        same'.matches_iff]
  | either first second ih ih' =>
    obtain ⟨ps, found, same⟩ := ih fits.1
    obtain ⟨qs, found', same'⟩ := ih' fits.2
    refine ⟨[.either (sequence ps) (sequence qs)], ?_, ?_, fun x => ?_⟩
    · simp [parts, grouped, choiceOf, together_fragment, found, found', choice]
    · rw [sequence, isOrdered, same.ordered, same'.ordered]
      rfl
    · rw [Term.pattern, matches_either_iff, ← same.matches_iff, ← same'.matches_iff]
      exact matches_either_iff
  | times least most body ih =>
    obtain ⟨small, ordered, fits⟩ := fits
    obtain ⟨ps, found, same⟩ := ih fits
    -- What is read of the body need not be what was written, but it matches the same texts.
    obtain ⟨r, left, holds⟩ := exists_repeated same ordered
    refine ⟨[r], ?_, holds⟩
    simp [parts, grouped, choiceOf, together_fragment, found, choice, left]

theorem depthTogether_le {depths : List Nat} {n : Nat} (each : ∀ depth ∈ depths, depth ≤ n) :
    depthTogether depths ≤ n + 1 := by
  have deepest : depths.foldl max 0 ≤ n := by
    rw [List.foldl_eq_foldr]
    exact List.max_le_of_forall_le depths n each
  rw [depthTogether]
  split_ifs <;> omega

theorem depth_together_le {parts : List Part} {n : Nat} (each : ∀ part ∈ parts, part.depth ≤ n) :
    (together parts).depth ≤ n + 1 := by
  refine depthTogether_le fun depth mem => ?_
  obtain ⟨item, among, rfl⟩ := List.mem_map.1 mem
  obtain ⟨part, inside, rfl⟩ := List.mem_map.1 (List.mem_reverse.1 among)
  exact each part inside

theorem depth_le (t : Term) : ∀ part ∈ parts t, part.depth ≤ t.depth := by
  induction t with
  | nothing => simp [parts]
  | char c => simp [parts]
  | seq first second ih ih' =>
    rw [parts, Term.depth]
    intro part mem
    rcases List.mem_append.1 mem with left | right
    · exact (ih part left).trans (Nat.le_max_left ..)
    · exact (ih' part right).trans (Nat.le_max_right ..)
  | either first second ih ih' =>
    have left := depth_together_le ih
    have right := depth_together_le ih'
    have both : depthTogether [(together (parts first)).depth, (together (parts second)).depth] ≤
        max first.depth second.depth + 1 + 1 :=
      depthTogether_le (by simp; omega)
    simpa [parts, grouped, Term.depth] using both
  | times least most body ih =>
    have inside := depth_together_le ih
    have alone : depthTogether [(together (parts body)).depth] ≤ body.depth + 1 := by
      simpa [depthTogether] using inside
    simpa [parts, grouped, Term.depth] using alone

/-- The state of the reader at the start of a text. -/
def State.initial : State :=
  ⟨.initial, .start .initial, [], []⟩

theorem readItems?_whole (fits : t.Fits) :
    readItems? (t.text.length + 1) .initial t.text = some (State.initial.pushAll (parts t)) := by
  obtain ⟨spare, enough⟩ := Nat.exists_eq_add_of_le (steps_le t)
  have order : t.text.length + 1 = spare + 1 + steps t := by omega
  calc
    _ = readItems? (spare + 1 + steps t) .initial (t.text ++ []) := by rw [List.append_nil, order]
    _ = readItems? (spare + 1) (State.initial.pushAll (parts t)) [] :=
      readItems?_text fits rfl rfl _
    _ = _ := rfl

theorem close_pushAll (parts : List Part) {p : Pattern}
    (found : (together parts).fragment = some p) :
    (State.initial.pushAll parts).frame.close = ⟨some p, (together parts).depth⟩ := by
  have items : (State.initial.pushAll parts).frame.sequence = together parts := by
    simp [State.pushAll, State.initial, Frame.start, Frame.sequence, together]
  have alternatives : (State.initial.pushAll parts).frame.alternatives = [] := rfl
  rw [Frame.close, items, alternatives]
  simp [choiceOf, found, choice, depthTogether]

end Reader

open Reader

/-- The text of a term is read as a pattern that accepts just the texts the term stands for. -/
theorem exists_read?_text {t : Term} (fits : t.Fits) (shallow : t.depth < deepest) :
    ∃ p, read? (String.ofList t.text) = some p ∧ ∀ x, p.accepts x = true ↔ Matches t.pattern x := by
  obtain ⟨ps, found, same⟩ := exists_patterns fits
  refine ⟨sequence ps, ?_, fun x => (accepts_iff same.ordered).trans (same.matches_iff x)⟩
  have whole : (together (parts t)).fragment = some (sequence ps) := by
    rw [together_fragment, found, Option.map_some]
  have depth : (together (parts t)).depth ≤ deepest :=
    (depth_together_le (depth_le t)).trans shallow
  have read := readItems?_whole fits
  rw [State.initial] at read
  simp only [read?, String.toList_ofList, read, Option.bind_eq_bind, Option.bind_some]
  rw [← State.initial, close_pushAll _ whole]
  simp [depth, State.pushAll, State.initial]

/-! ## Texts that stand for themselves -/

/-- A text as a term. -/
def Term.literal : List Char → Term
  | [] => nothing
  | c :: rest => seq (char c) (literal rest)

theorem Term.fits_literal (wording : List Char) : (literal wording).Fits := by
  induction wording with
  | nil => trivial
  | cons c rest ih => exact ⟨trivial, ih⟩

theorem Term.depth_literal (wording : List Char) : (literal wording).depth = 0 := by
  induction wording with
  | nil => rfl
  | cons c rest ih => rw [literal, depth, ih]; rfl

theorem contains_singleton (c d : Char) : (CharSet.singleton c).contains d = true ↔ d = c := by
  have only : (CharSet.singleton c).contains d =
      (decide (c.toNat ≤ d.toNat) && decide (d.toNat ≤ c.toNat)) := by
    simp [CharSet.singleton, CharSet.range, CharSet.ofRanges, CharSet.insertRange,
      CharSet.contains]
  rw [only, Bool.and_eq_true, decide_eq_true_eq, decide_eq_true_eq, ← Char.toNat_inj]
  omega

theorem Term.matches_literal (wording : List Char) {x : List Char} :
    Matches (literal wording).pattern x ↔ x = wording := by
  induction wording generalizing x with
  | nil => exact matches_empty_iff
  | cons c rest ih =>
    simp only [literal, pattern, matches_seq_iff, matches_oneOf_iff, contains_singleton, ih]
    constructor
    · rintro ⟨_, _, rfl, ⟨_, rfl, rfl⟩, rfl⟩
      rfl
    · rintro rfl
      exact ⟨[c], rest, rfl, ⟨c, rfl, rfl⟩, rfl⟩

/-- Behind backslashes where these are needed, every text is a pattern that accepts it alone. -/
theorem exists_read?_literal (wording : List Char) :
    ∃ p, read? (String.ofList (Term.literal wording).text) = some p ∧
      ∀ x, p.accepts x = true ↔ x = wording := by
  obtain ⟨p, found, accepts⟩ := exists_read?_text (Term.fits_literal wording)
    (by rw [Term.depth_literal]; decide)
  exact ⟨p, found, fun x => (accepts x).trans (Term.matches_literal wording)⟩

end FormatConformance.Pattern
