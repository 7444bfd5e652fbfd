import FormatConformance.Generation.Smaller
import FormatConformance.Generation.Case
import FormatConformance.Proofs.BridgeAgreement
import FormatConformance.Proofs.Ieee.Fields
import FormatConformance.Proofs.Specifiers
import FormatConformance.Proofs.Subject.Marshalling
import Mathlib.Algebra.Group.Nat.Defs

/-!
# Generated cases are well formed

`WellFormed` is what a generated case owes to its settings and its entry point. Each part of a case
has a law of its own (`yields_text`, `yields_specifier`, `yields_argument`), and a case is put
together from them (`yields_input`), whatever the tape. A well formed case has a template over the
alphabet, so the calling convention carries it (`WellFormed.deliverable`), and no call on it can
fail for want of a form.
-/

namespace FormatConformance

/-! ## Finite numbers and what is not a number -/

namespace Ieee.Layout

/-- The pattern denotes no infinity. -/
def Bounded (l : Layout) (bits : Nat) : Prop :=
  ∀ negative, l.datum bits ≠ .infinite negative

instance (l : Layout) (bits : Nat) : Decidable (l.Bounded bits) :=
  inferInstanceAs (Decidable (∀ negative, l.datum bits ≠ .infinite negative))

theorem bounded_of_exponentField_ne {l : Layout} {bits : Nat}
    (below : l.exponentField bits ≠ l.topField) : l.Bounded bits := by
  intro negative
  rw [datum]
  simp only [if_neg below]
  split_ifs <;> simp

end Ieee.Layout

namespace Generation

open FormatConformance.Random FormatConformance.Random.Generator

/-! ## Texts and specifiers -/

/-- A text over the alphabet of at most some characters. -/
def Printed (bound : Nat) (text : String) : Prop :=
  text.length ≤ bound ∧ ∀ c ∈ text.toList, c ∈ Alphabet.printable

theorem yields_character : Yields character (· ∈ Alphabet.printable) := by
  refine yields_weighted (yields_member _ _) (List.forall_mem_singleton.2 ?_)
  exact (yields_member Alphabet.edge (by decide +kernel)).imp fun _ =>
    Alphabet.mem_printable_of_mem_edge

theorem yields_text (bound : Nat) : Yields (text bound) (Printed bound) := by
  refine (yields_listUpTo bound yields_character).bind ?_
  rintro chars ⟨short, printed⟩
  refine .pure ⟨?_, ?_⟩
  · rwa [String.length_ofList]
  · rwa [String.toList_ofList]

theorem fruitful_grammar (entry : EntryPoint) : (Specifier.grammar entry).fruitful := by
  cases entry <;> decide +kernel

theorem yields_specifier (entry : EntryPoint) :
    Yields (specifier entry) fun s => (Specifier.grammar entry).Matches s.toList := by
  refine (yields_matching (fruitful_grammar entry)).bind fun chars matched => .pure ?_
  rwa [String.toList_ofList]

/-! ## Arguments

A number is drawn by its sign, its exponent and its fraction, so that it is finite as long as the
exponent is not the topmost one. Values that are not numbers are drawn by their patterns. -/

variable {l : Ieee.Layout}

/-- A pattern of the width of the format that denotes no infinity. -/
def FiniteOrNan (l : Ieee.Layout) (bits : Nat) : Prop :=
  bits < 2 * l.signBit ∧ l.Bounded bits

instance (l : Ieee.Layout) (bits : Nat) : Decidable (FiniteOrNan l bits) :=
  inferInstanceAs (Decidable (_ ∧ _))

theorem finiteOrNan_withSign {negative : Bool} {exponent fraction : Nat}
    (exponent_below : exponent < l.topField) (fraction_fits : fraction < 2 ^ l.fractionBits) :
    FiniteOrNan l (l.withSign negative (exponent * 2 ^ l.fractionBits + fraction)) := by
  have exponent_fits : exponent < 2 ^ l.exponentBits :=
    Nat.lt_of_lt_of_le exponent_below (Nat.sub_le _ _)
  -- As fields the number has the exponent that was chosen, which is not the topmost.
  let fields : Ieee.Fields l := ⟨negative, exponent, fraction, exponent_fits, fraction_fits⟩
  have below : l.exponentField fields.pattern ≠ l.topField := by
    rw [fields.exponentField_pattern]
    exact Nat.ne_of_lt exponent_below
  exact ⟨fields.pattern_lt, Ieee.Layout.bounded_of_exponentField_ne below⟩

theorem yields_withExponent {least greatest : Nat} (ordered : least ≤ greatest)
    (below : greatest < l.topField) : Yields (withExponent l least greatest) (FiniteOrNan l) := by
  refine (yields_any _).bind fun negative _ => (yields_any _).bind fun exponent _ =>
    (yields_any _).bind fun fraction _ => .pure (finiteOrNan_withSign ?_ ?_)
  · -- The draw is below the number of exponents, counted from the least one.
    have within := exponent.isLt
    omega
  · have within := fraction.isLt
    have positive : 0 < 2 ^ l.fractionBits := Nat.two_pow_pos _
    have power : Nat.pow 2 l.fractionBits = 2 ^ l.fractionBits := rfl
    omega

theorem yields_zero (some_field : 0 < l.topField) : Yields (zero l) (FiniteOrNan l) := by
  refine (yields_any _).bind fun negative _ => .pure ?_
  have fields := @finiteOrNan_withSign l (negative = 1) 0 0 some_field (Nat.two_pow_pos _)
  rwa [Nat.zero_mul] at fields

theorem yields_finite (two_fields : 1 < l.topField) : Yields (finite l) (FiniteOrNan l) := by
  refine yields_weighted (yields_withExponent (by omega) (by omega)) ?_
  simp only [List.forall_mem_cons, List.not_mem_nil, false_imp_iff, implies_true, and_true]
  exact ⟨yields_withExponent le_rfl (by omega), yields_zero (by omega)⟩

/-- Numbers, both patterns for what is not a number, and frequent patterns. -/
theorem yields_pattern {frequent : Generator Nat} (two_fields : 1 < l.topField)
    (nan : ∀ bits ∈ [l.quietNan, l.withSign true l.quietNan], FiniteOrNan l bits)
    (known : Yields frequent (FiniteOrNan l)) : Yields (pattern l frequent) (FiniteOrNan l) := by
  refine yields_weighted (yields_finite two_fields) ?_
  simp only [List.forall_mem_cons, List.not_mem_nil, false_imp_iff, implies_true, and_true]
  exact ⟨(yields_member _ _).imp nan, known⟩

/-- An argument within the bounds of the settings. -/
def ArgumentFits (settings : Settings) : Argument → Prop
  | .nothing => True
  | .int _ => True
  | .single bits => Ieee.single.Bounded bits.toNat
  | .double bits => Ieee.double.Bounded bits.toNat
  | .text value => Printed settings.maxText value

theorem yields_argument (settings : Settings) (entry : EntryPoint) :
    Yields (argument settings entry) fun a => a.entryPoint = entry ∧ ArgumentFits settings a := by
  cases entry with
  | nothing => exact .pure ⟨rfl, trivial⟩
  | int => exact (yields_any int).bind fun value _ => .pure ⟨rfl, trivial⟩
  | single =>
    have edges : ∀ bits ∈ edgeSingles, FiniteOrNan Ieee.single bits := by decide +kernel
    have drawn : Yields _ (FiniteOrNan Ieee.single) :=
      yields_pattern (by decide) (by decide +kernel)
        ((yields_member edgeSingles (by decide)).imp edges)
    refine drawn.bind fun bits ⟨fits, bounded⟩ => .pure ⟨rfl, ?_⟩
    show Ieee.single.Bounded (UInt32.ofNat bits).toNat
    rwa [UInt32.toNat_ofNat_of_lt' fits]
  | double =>
    have edges : ∀ bits ∈ edgeDoubles, FiniteOrNan Ieee.double bits := by decide +kernel
    have drawn : Yields _ (FiniteOrNan Ieee.double) :=
      yields_pattern (by decide) (by decide +kernel)
        ((yields_member edgeDoubles (by decide)).imp edges)
    refine drawn.bind fun bits ⟨fits, bounded⟩ => .pure ⟨rfl, ?_⟩
    show Ieee.double.Bounded (UInt64.ofNat bits).toNat
    rwa [UInt64.toNat_ofNat_of_lt' fits]
  | text => exact (yields_text settings.maxText).bind fun value printed => .pure ⟨rfl, printed⟩

/-! ## Cases -/

/-- What a generated case owes to the settings and to its entry point. Without an argument the bound
is on the whole template, else on the texts around the placeholder. -/
structure WellFormed (settings : Settings) (entry : EntryPoint) (c : Case) : Prop where
  shape : c.entryPoint = entry
  grammatical : (Specifier.grammar entry).Matches c.specifier.toList
  around : if entry = .nothing then Printed settings.maxTemplate c.template
    else Printed settings.maxAffix c.before ∧ Printed settings.maxAffix c.after
  argument_fits : ArgumentFits settings c.argument

theorem template_ofTemplate (text : String) : (Case.ofTemplate text).template = text := by
  show String.ofList (text.toList ++ "".toList) = text
  rw [String.toList_empty, List.append_nil, String.ofList_toList]

/-- A case with an argument from its parts. -/
theorem yields_parts (settings : Settings) {entry : EntryPoint} (valued : entry ≠ .nothing) :
    Yields (do
      let before ← text settings.maxAffix
      let specifier ← specifier entry
      let after ← text settings.maxAffix
      let argument ← argument settings entry
      return (⟨before, specifier, after, argument⟩ : Case)) (WellFormed settings entry) := by
  refine (yields_text _).bind fun before before_printed => (yields_specifier entry).bind
    fun spec grammatical => (yields_text _).bind fun after after_printed =>
      (yields_argument settings entry).bind fun value ⟨shape, fits⟩ => .pure ?_
  exact ⟨shape, grammatical, by rw [if_neg valued]; exact ⟨before_printed, after_printed⟩, fits⟩

theorem yields_input (settings : Settings) (entry : EntryPoint) :
    Yields (input settings entry) (WellFormed settings entry) := by
  cases entry with
  | nothing =>
    refine (yields_text settings.maxTemplate).bind fun whole printed =>
      .pure ⟨rfl, .empty, ?_, trivial⟩
    rwa [if_pos rfl, template_ofTemplate]
  | int => exact yields_parts settings (by decide)
  | single => exact yields_parts settings (by decide)
  | double => exact yields_parts settings (by decide)
  | text => exact yields_parts settings (by decide)

/-! ## Templates and calls -/

/-- The alphabet has all that is printable in ASCII. -/
theorem mem_printable_of_ascii {c : Char} (first : 0x20 ≤ c.toNat) (last : c.toNat ≤ 0x7e) :
    c ∈ Alphabet.printable := by
  have table : ∀ n < 0x7f, 0x20 ≤ n → Char.ofNat n ∈ Alphabet.printable := by decide +kernel
  rw [← Char.ofNat_toNat c]
  exact table c.toNat (Nat.lt_succ_of_le last) first

/-- The template of a case with an argument. -/
theorem toList_template {c : Case} (valued : c.entryPoint ≠ .nothing) :
    c.template.toList =
      c.before.toList ++ '\x7b' :: ':' :: (c.specifier.toList ++ '\x7d' :: c.after.toList) := by
  obtain ⟨before, spec, after, argument⟩ := c
  rw [Case.template, String.toList_ofList]
  cases argument with
  | nothing => exact absurd rfl valued
  | _ => rfl

namespace WellFormed

variable {settings : Settings} {entry : EntryPoint} {c : Case}

theorem template_printed (formed : WellFormed settings entry c) :
    ∀ x ∈ c.template.toList, x ∈ Alphabet.printable := by
  obtain ⟨shape, grammatical, around, -⟩ := formed
  -- Without an argument the whole template is one text, and there is nothing else in it.
  by_cases none : entry = .nothing
  · rw [if_pos none] at around
    exact around.2
  · rw [if_neg none] at around
    obtain ⟨before, after⟩ := around
    have spec : ∀ x ∈ c.specifier.toList, x ∈ Alphabet.printable := by
      intro x mem
      obtain ⟨first, last, -⟩ := Specifier.plain_of_matches grammatical x mem
      exact mem_printable_of_ascii first last
    rw [toList_template (shape ▸ none)]
    simp only [List.forall_mem_append, List.forall_mem_cons]
    exact ⟨before.2, mem_printable_of_ascii (by decide) (by decide),
      mem_printable_of_ascii (by decide) (by decide), spec,
      mem_printable_of_ascii (by decide) (by decide), after.2⟩

theorem nul_not_mem {text : List Char} (printed : ∀ x ∈ text, x ∈ Alphabet.printable) :
    '\x00' ∉ text := by
  intro mem
  have unprinted : '\x00' ∉ Alphabet.printable := by decide +kernel
  exact unprinted (printed _ mem)

/-- The calling convention carries a well formed case. -/
theorem deliverable (formed : WellFormed settings entry c) :
    Subject.Deliverable c.entryPoint c.template c.argument where
  shape := rfl
  template_clean := nul_not_mem formed.template_printed
  value_clean := by
    -- Only a text can bring a character of its own, and it is over the alphabet as well.
    intro value same
    have fits := formed.argument_fits
    rw [same] at fits
    exact nul_not_mem fits.2

/-- No call on a well formed case fails for want of a form. -/
theorem called (formed : WellFormed settings entry c) (b : Subject.Bridge) :
    (∃ outcome, b.invokeCase c = .ok outcome) ∧ ∃ rejected, b.probeCase c = .ok rejected := by
  have marshalled := Subject.marshal_eq_ok_iff.2 ⟨formed.deliverable, rfl⟩
  exact ⟨⟨_, b.invokeCase_of_marshal marshalled⟩, ⟨_, b.probeCase_of_marshal marshalled⟩⟩

end WellFormed

/-! ## Smaller cases

What is tried in place of a failing case is made of a part of it, with the other parts as they were.
It has to be well formed as well, or a shrunk case could fail for a reason of its own. -/

/-- A text that is no longer than another one and has no other characters. -/
def Within (smaller text : String) : Prop :=
  smaller.length ≤ text.length ∧ ∀ x ∈ smaller.toList, x ∈ text.toList

theorem Within.refl (text : String) : Within text text :=
  ⟨le_rfl, fun _ mem => mem⟩

theorem within_of_mem_smallerTexts {text smaller : String} (mem : smaller ∈ smallerTexts text) :
    Within smaller text := by
  obtain ⟨length, -, rfl⟩ := List.mem_map.1 mem
  rw [Within, String.length_ofList, String.toList_ofList, ← String.length_toList]
  exact ⟨List.length_take_le' _ _, fun x taken => List.mem_of_mem_take taken⟩

theorem Printed.within {bound : Nat} {text smaller : String} (printed : Printed bound text)
    (within : Within smaller text) : Printed bound smaller :=
  ⟨within.1.trans printed.1, fun x mem => printed.2 x (within.2 x mem)⟩

theorem printed_template_iff {c : Case} (unvalued : c.entryPoint = .nothing) {bound : Nat} :
    Printed bound c.template ↔ c.before.length + c.after.length ≤ bound ∧
      (∀ x ∈ c.before.toList, x ∈ Alphabet.printable) ∧
        ∀ x ∈ c.after.toList, x ∈ Alphabet.printable := by
  obtain ⟨before, spec, after, argument⟩ := c
  cases argument with
  | nothing =>
    have template : (Case.template ⟨before, spec, after, .nothing⟩).toList =
        before.toList ++ after.toList := String.toList_ofList
    rw [Printed, ← String.length_toList, template, List.length_append, List.forall_mem_append,
      String.length_toList, String.length_toList]
  | _ => cases unvalued

theorem argumentFits_smaller {settings : Settings} {a smaller : Argument}
    (fits : ArgumentFits settings a) (mem : smaller ∈ smallerArguments a) :
    smaller.entryPoint = a.entryPoint ∧ ArgumentFits settings smaller := by
  cases a with
  | nothing => cases mem
  | int value =>
    obtain ⟨_, -, rfl⟩ := List.mem_map.1 mem
    exact ⟨rfl, trivial⟩
  -- A floating-point argument has one thing to try, which is zero.
  | single bits =>
    have zero : smaller = .single 0 := by
      rw [smallerArguments] at mem
      split_ifs at mem
      · cases mem
      · exact List.mem_singleton.1 mem
    subst zero
    exact ⟨rfl, (by decide +kernel : Ieee.single.Bounded 0)⟩
  | double bits =>
    have zero : smaller = .double 0 := by
      rw [smallerArguments] at mem
      split_ifs at mem
      · cases mem
      · exact List.mem_singleton.1 mem
    subst zero
    exact ⟨rfl, (by decide +kernel : Ieee.double.Bounded 0)⟩
  | text value =>
    obtain ⟨_, shorter, rfl⟩ := List.mem_map.1 mem
    exact ⟨rfl, Printed.within fits (within_of_mem_smallerTexts shorter)⟩

/-- The shortest specifier of the same type is in the grammar. -/
theorem matches_shortestSpecifier {a : Argument} {spec : String}
    (grammatical : (Specifier.grammar a.entryPoint).Matches spec.toList) :
    (Specifier.grammar a.entryPoint).Matches (shortestSpecifier a spec).toList := by
  unfold shortestSpecifier
  rw [String.toList_ofList]
  cases a with
  | nothing => exact .empty
  | int value =>
    obtain ⟨front, type, split, alone⟩ := Specifier.exists_int_type grammatical
    rwa [split, List.getLast?_concat]
  | single bits =>
    obtain ⟨front, type, split, least⟩ := Specifier.exists_float_type grammatical
    rwa [split, List.getLast?_concat]
  | double bits =>
    obtain ⟨front, type, split, least⟩ := Specifier.exists_float_type grammatical
    rwa [split, List.getLast?_concat]
  -- A text may have an empty specifier, so nothing has to be kept.
  | text value => exact Pattern.matches_times_nil

namespace WellFormed

variable {settings : Settings} {entry : EntryPoint} {c : Case}

/-- A case stays well formed when the texts around its placeholder shrink, whatever happens to the
specifier and to the argument as long as they are what the settings and the entry point ask for. -/
theorem shrink (formed : WellFormed settings entry c) {d : Case} (shape : d.entryPoint = entry)
    (grammatical : (Specifier.grammar entry).Matches d.specifier.toList)
    (before : Within d.before c.before) (after : Within d.after c.after)
    (fits : ArgumentFits settings d.argument) : WellFormed settings entry d := by
  refine ⟨shape, grammatical, ?_, fits⟩
  have around := formed.around
  by_cases none : entry = .nothing
  · -- The bound is on both texts together, and each of them only loses characters.
    rw [if_pos none, printed_template_iff (formed.shape.trans none)] at around
    rw [if_pos none, printed_template_iff (shape.trans none)]
    obtain ⟨length, before_printed, after_printed⟩ := around
    refine ⟨(Nat.add_le_add before.1 after.1).trans length, ?_, ?_⟩
    · exact fun x mem => before_printed x (before.2 x mem)
    · exact fun x mem => after_printed x (after.2 x mem)
  · rw [if_neg none] at around ⊢
    exact ⟨around.1.within before, around.2.within after⟩

/-- What is tried in place of a well formed case is well formed. -/
theorem smaller (formed : WellFormed settings entry c) :
    ∀ d ∈ smallerCases c, WellFormed settings entry d := by
  intro d tried
  have same (text : String) : Within text text := .refl text
  have ⟨shape, grammatical, _, fits⟩ := formed
  rw [smallerCases, List.mem_append, List.mem_append, List.mem_append] at tried
  -- One part at a time gets smaller, the others stay what they are.
  rcases tried with ((before | after) | specifier) | argument
  · obtain ⟨_, shorter, rfl⟩ := List.mem_map.1 before
    exact formed.shrink shape grammatical (within_of_mem_smallerTexts shorter) (same _) fits
  · obtain ⟨_, shorter, rfl⟩ := List.mem_map.1 after
    exact formed.shrink shape grammatical (same _) (within_of_mem_smallerTexts shorter) fits
  · obtain ⟨_, shorter, rfl⟩ := List.mem_map.1 specifier
    obtain ⟨shortest, -⟩ := List.mem_filter.1 shorter
    rw [List.mem_singleton.1 shortest]
    subst shape
    exact formed.shrink rfl (matches_shortestSpecifier grammatical) (same _) (same _) fits
  · obtain ⟨_, smaller, rfl⟩ := List.mem_map.1 argument
    obtain ⟨same_entry, still⟩ := argumentFits_smaller fits smaller
    exact formed.shrink (same_entry.trans shape) grammatical (same _) (same _) still

end WellFormed

/-- Whatever is drawn, for every entry point and all settings, a generated case is well formed, so
is every case of a stream, and so is what is tried in place of one. No specifier of a grammar has a
brace, a NUL or a character that is not printable, and one for a text that is not empty names its
alignment. So the template of a case with an argument is the text before, a placeholder with a
specifier that cannot close it, and the text after; the template and a text argument are over the
alphabet; and no bridge refuses the case. -/
theorem generated_wellFormed (settings : Settings) (entry : EntryPoint) :
    (∀ tape position, WellFormed settings entry (input settings entry tape position).1) ∧
    (∀ source number, WellFormed settings entry (stream settings source entry number)) ∧
    (∀ spec, (Specifier.grammar entry).Matches spec →
      ∀ x ∈ spec, 0x20 ≤ x.toNat ∧ x.toNat ≤ 0x7e ∧ x ≠ '\x00' ∧ x ≠ '\x7b' ∧ x ≠ '\x7d') ∧
    (∀ spec, Specifier.text.Matches spec → spec ≠ [] →
      ∃ fill align width, spec = fill ++ align :: width ∧ fill.length ≤ 1 ∧
        align ∈ ['<', '>', '^'] ∧ width.length ≤ 4 ∧ ∀ x ∈ width, x.isDigit) ∧
    ∀ c, WellFormed settings entry c →
      (entry ≠ .nothing → c.template.toList =
        c.before.toList ++ '\x7b' :: ':' :: (c.specifier.toList ++ '\x7d' :: c.after.toList)) ∧
      (∀ x ∈ c.template.toList, x ∈ Alphabet.printable) ∧
      (∀ b : Subject.Bridge, (∃ outcome, b.invokeCase c = .ok outcome) ∧
        ∃ rejected, b.probeCase c = .ok rejected) ∧
      ∀ d ∈ smallerCases c, WellFormed settings entry d := by
  refine ⟨yields_input settings entry, fun source number => yields_input settings entry _ 0,
    fun spec matched x mem => ?_, fun spec matched nonempty => ?_, fun c formed => ?_⟩
  · obtain ⟨first, last, opening, closing⟩ := Specifier.plain_of_matches matched x mem
    refine ⟨first, last, ?_, opening, closing⟩
    -- NUL stands before the first printable character.
    rintro rfl
    contradiction
  · exact (Specifier.text_aligned matched).resolve_left nonempty
  · exact ⟨fun valued => toList_template (formed.shape ▸ valued), formed.template_printed,
      formed.called, formed.smaller⟩

end Generation

end FormatConformance
