import FormatConformance.Proofs.Ieee.Widening
import FormatConformance.Proofs.Json.Printable
import FormatConformance.Proofs.Json.Reading
import FormatConformance.Reference.Request

/-!
# Requests are lossless lines

The line of a request holds no control character, so no line feed either, and is read back as the
object with the template and the argument (`read?_line`). `Sent` says which value an argument is
sent as, in terms of the argument alone: `Doubles` says which double a single is, and `Shows` which
text a bit pattern has. Each of the three leaves no choice (`sent_iff`), and different arguments on
the way are read back as different values (`received_injective`), so two requests have the same line
when they have the same template and there is a value that both arguments are sent as.
-/

namespace FormatConformance.Reference

open FormatConformance.Json (Document)
open Ieee (single double widen)

/-! ## What an argument is sent as

A reader of the line knows nothing of how it was written. To it an argument is null or an object
with a kind, and the bit pattern of a double is a text of sixteen hexadecimal digits.
-/

/-- The double that denotes what a single denotes. What is not a number becomes quiet and keeps its
sign and the rest of its fraction. -/
structure Doubles (bits : UInt32) (wide : Nat) : Prop where
  fits : wide < 2 ^ 64
  number : single.isNan bits.toNat = false → ∃ amount,
    (single.datum bits.toNat).denoted? = some amount ∧ (double.datum wide).denoted? = some amount
  nan : single.isNan bits.toNat = true →
    wide = bits.toNat / 2 ^ 31 * 2 ^ 63 + 0x7ff8000000000000 + bits.toNat % 2 ^ 22 * 2 ^ 29

/-- A text of sixteen hexadecimal digits behind `0x`, none of them a capital letter, and the number
that they spell. -/
def Shows (text : String) (n : Nat) : Prop :=
  ∃ digits, text.toList = '0' :: 'x' :: digits ∧ digits.length = 16 ∧
    (∀ c ∈ digits, c.isUpper = false) ∧ Numeral.Spells 16 digits n

/-- What an argument is sent as: the value that a reader gets, its fields sorted by key. -/
inductive Sent : Argument → Json → Prop
  | nothing : Sent .nothing .null
  | int (value : Int32) : Sent (.int value)
      (.object [("kind", .string "int"), ("value", .number (.int value.toInt))])
  | single (bits : UInt32) {wide : Nat} {text : String} (doubles : Doubles bits wide)
    (shows : Shows text wide) : Sent (.single bits)
      (.object [("bits", .string text), ("kind", .string "float")])
  | double (bits : UInt64) {text : String} (shows : Shows text bits.toNat) : Sent (.double bits)
      (.object [("bits", .string text), ("kind", .string "float")])
  | text (value : String) : Sent (.text value)
      (.object [("kind", .string "string"), ("value", .string value)])

theorem doubles_widen (bits : UInt32) : Doubles bits (widen bits.toNat) where
  fits := Ieee.widen_lt _
  number number := by
    obtain ⟨amount, denoted⟩ := Ieee.exists_denoted number
    exact ⟨amount, denoted, by rw [Ieee.denoted?_widen, denoted]⟩
  nan := Ieee.widen_of_isNan bits.toNat_lt

/-- Only one double will do. -/
theorem Doubles.eq_widen {bits : UInt32} {wide : Nat} (doubles : Doubles bits wide) :
    wide = widen bits.toNat := by
  cases kind : single.isNan bits.toNat with
  | true => rw [doubles.nan kind, (doubles_widen bits).nan kind]
  | false =>
    obtain ⟨amount, denoted, same⟩ := doubles.number kind
    have fits : wide < 2 * double.signBit := doubles.fits
    refine Ieee.eq_of_denoted?_eq fits (Ieee.widen_lt _) same ?_
    rw [Ieee.denoted?_widen, denoted]

/-! ## Arguments on the way -/

namespace WireArgument

theorem shows_bitsText (bits : UInt64) : Shows (bitsText bits) bits.toNat := by
  refine ⟨Numeral.paddedHex 16 bits.toNat, ?_, ?_, ?_, Numeral.spells_paddedHex 16 _⟩
  · rw [bitsText, String.toList_ofList, Numeral.hexPattern]
  · exact Numeral.length_paddedHex (by decide) bits.toNat_lt
  · exact fun c mem => Numeral.isUpper_of_mem_paddedHex mem

/-- Only one text will do. -/
theorem eq_bitsText_of_shows {text : String} {bits : UInt64} (shows : Shows text bits.toNat) :
    text = bitsText bits := by
  obtain ⟨digits, shown, width, small, spells⟩ := shows
  obtain ⟨digits', shown', width', small', spells'⟩ := shows_bitsText bits
  obtain rfl : digits = digits' :=
    Numeral.eq_of_spells spells spells' (width.trans width'.symm) small small'
  rw [← String.toList_inj, shown, shown']

theorem hexBits?_bitsText (bits : UInt64) :
    Argument.hexBits? (bitsText bits).toList = some bits.toNat := by
  have fits : bits.toNat ≤ Numeral.maxWord64 := Nat.le_of_lt_succ bits.toNat_lt
  rw [bitsText, String.toList_ofList, Numeral.hexBits?_hexPattern fits]

theorem bitsText_injective : Function.Injective bitsText := by
  intro a b same
  have read : some a.toNat = some b.toNat := by
    rw [← hexBits?_bitsText, ← hexBits?_bitsText, same]
  exact UInt64.toNat_inj.1 (Option.some.inj read)

/-- The value that a reader gets of an argument, its fields sorted by key. -/
def received : WireArgument → Json
  | int value => .object [("kind", .string "int"), ("value", .number (.int value.toInt))]
  | float bits => .object [("bits", .string (bitsText bits)), ("kind", .string "float")]
  | text value => .object [("kind", .string "string"), ("value", .string value)]

theorem received_injective : Function.Injective received := by
  intro a b same
  cases a <;> cases b <;> simp [received] at same
  · rw [Int32.toInt_inj.1 same]
  · rw [bitsText_injective same]
  · rw [same]

/-- Each argument is sent as one value and no other. -/
theorem sent_iff {argument : Argument} {value : Json} :
    Sent argument value ↔ value = .ofOption received (ofArgument? argument) := by
  have word (bits : UInt32) : (UInt64.ofNat (widen bits.toNat)).toNat = widen bits.toNat :=
    UInt64.toNat_ofNat_of_lt' (Ieee.widen_lt _)
  constructor
  · rintro (_ | value | ⟨bits, doubles, shows⟩ | ⟨bits, shows⟩ | value)
    · rfl
    · rfl
    · -- There is one double of the same number, and one text of its pattern.
      rw [doubles.eq_widen, ← word] at shows
      rw [eq_bitsText_of_shows shows]
      rfl
    · rw [eq_bitsText_of_shows shows]
      rfl
    · rfl
  · rintro rfl
    cases argument with
    | nothing => exact .nothing
    | int value => exact .int value
    | single bits =>
      have shows := shows_bitsText (UInt64.ofNat (widen bits.toNat))
      rw [word] at shows
      exact .single bits (doubles_widen bits) shows
    | double bits => exact .double bits (shows_bitsText bits)
    | text value => exact .text value

theorem integral_toJson (a : WireArgument) : a.toJson.Integral := by
  cases a with
  | int value =>
    have lower := value.le_toInt
    have upper := value.toInt_lt
    exact .pair (.string _) (.number ⟨by omega, by omega⟩)
  | float bits => exact .pair (.string _) (.string _)
  | text value => exact .pair (.string _) (.string _)

theorem evaluate_toJson (a : WireArgument) :
    (Document.ofValue a.toJson).evaluate = some a.received := by
  -- The value of the object has its keys in order, so the order of the two names decides.
  have kind_value : ¬"value" < "kind" ∧ "value" ≠ "kind" := by decide +kernel
  have bits_kind : "bits" < "kind" := by decide +kernel
  cases a with
  | int value =>
    rw [toJson, received, Json.evaluate_pair rfl rfl,
      Json.insertField_of_gt kind_value.1 kind_value.2, Json.insertField]
  | float bits =>
    rw [toJson, received, Json.evaluate_pair rfl rfl, Json.insertField_of_lt bits_kind]
  | text value =>
    rw [toJson, received, Json.evaluate_pair rfl rfl,
      Json.insertField_of_gt kind_value.1 kind_value.2, Json.insertField]

theorem depth_toJson (a : WireArgument) : (Document.ofValue a.toJson).depth = 1 := by
  cases a <;> rfl

end WireArgument

/-! ## Requests -/

namespace Request

/-- The value that a reader gets of a request, its fields sorted by key. -/
def received (r : Request) : Json :=
  .object [("arg", .ofOption WireArgument.received r.argument), ("template", .string r.template)]

theorem received_argument_injective :
    Function.Injective (Json.ofOption WireArgument.received) := by
  intro argument argument' same
  cases argument with
  | none => cases argument' with
    | none => rfl
    | some b => cases b <;> simp [Json.ofOption, WireArgument.received] at same
  | some a => cases argument' with
    | none => cases a <;> simp [Json.ofOption, WireArgument.received] at same
    | some b => exact congrArg some (WireArgument.received_injective same)

theorem received_injective : Function.Injective received := by
  rintro ⟨template, argument⟩ ⟨template', argument'⟩ same
  obtain ⟨same_argument, rfl⟩ :
      Json.ofOption WireArgument.received argument = .ofOption WireArgument.received argument' ∧
        template = template' := by
    simpa [received] using same
  rw [received_argument_injective same_argument]

theorem integral_toJson (r : Request) : r.toJson.Integral := by
  have argument : (Json.ofOption WireArgument.toJson r.argument).Integral := by
    cases r.argument with
    | none => exact .null
    | some a => exact a.integral_toJson
  exact .pair (.string _) argument

theorem evaluate_argument (argument : Option WireArgument) :
    (Document.ofValue (Json.ofOption WireArgument.toJson argument)).evaluate =
      some (Json.ofOption WireArgument.received argument) := by
  cases argument with
  | none => rfl
  | some a => exact a.evaluate_toJson

theorem value?_toJson (r : Request) : (Document.ofValue r.toJson).value? = some r.received := by
  have arg_template : "arg" < "template" := by decide +kernel
  obtain ⟨template, argument⟩ := r
  have shallow : (Document.ofValue (Json.ofOption WireArgument.toJson argument)).depth ≤ 1 := by
    cases argument with
    | none => exact Nat.zero_le 1
    | some a => exact a.depth_toJson.le
  have whole : (Document.ofValue (toJson ⟨template, argument⟩)).depth ≤ Document.depthLimit := by
    simp only [toJson, Document.ofValue, Document.ofFields, Document.depth, Document.depthOfFields,
      Document.depthLimit]
    omega
  rw [Document.value?, if_pos whole, toJson, Json.evaluate_pair rfl (evaluate_argument argument),
    Json.insertField_of_lt arg_template]
  rfl

/-- A request is read back from its line. -/
theorem read?_line (r : Request) : Json.read? r.line = some r.received := by
  rw [Json.read?, line, Json.read?_line r.integral_toJson]
  exact r.value?_toJson

theorem line_injective : Function.Injective line := by
  intro r s same
  have read : some r.received = some s.received := by
    rw [← read?_line, ← read?_line, same]
  exact received_injective (Option.some.inj read)

/-- The template of a case without argument is what stands before and after; with one it has the
specifier in braces in between. -/
theorem template_eq (c : Case) :
    c.template = if c.argument = .nothing then c.before ++ c.after
      else c.before ++ "\x7b:" ++ c.specifier ++ "\x7d" ++ c.after := by
  rw [← String.toList_inj, Case.template, Case.templateChars, String.toList_ofList]
  cases c.argument <;> simp

/-- The line of a request. It holds no control character and thus no line feed. By its syntax it is
the object with the template and an argument and with nothing else, and its value has the whole
template, and for the argument what the argument of the case is sent as: null, or an object with its
kind that has the integer or the text itself, or the sixteen digits of the double. So two cases have
the same line just when they have the same template and their arguments are sent as the same. -/
theorem line_lossless (c : Case) :
    (∀ x ∈ (ofCase c).line.toList, 0x20 ≤ x.toNat) ∧
      (c.template = if c.argument = .nothing then c.before ++ c.after
        else c.before ++ "\x7b:" ++ c.specifier ++ "\x7d" ++ c.after) ∧
      (∃ sent written, Sent c.argument sent ∧
        Json.read? (ofCase c).line =
          some (.object [("arg", sent), ("template", .string c.template)]) ∧
        Document.read? (ofCase c).line =
          some (.ofValue (.object [("template", .string c.template), ("arg", written)])) ∧
        (Document.ofValue written).evaluate = some sent) ∧
      ∀ d : Case, (ofCase c).line = (ofCase d).line ↔
        c.template = d.template ∧ ∃ sent, Sent c.argument sent ∧ Sent d.argument sent := by
  refine ⟨?_, template_eq c, ⟨_, _, WireArgument.sent_iff.2 rfl, read?_line (ofCase c),
    Json.read?_line (ofCase c).integral_toJson, evaluate_argument _⟩, fun d => ?_⟩
  · rw [line, Json.line, String.toList_ofList]
    exact Json.printable_compact (ofCase c).toJson
  · -- Equal lines are equal requests, and those have the same template and the same value.
    simp only [WireArgument.sent_iff, exists_eq_left]
    rw [line_injective.eq_iff, ofCase, ofCase, Request.mk.injEq]
    exact and_congr_right fun _ => received_argument_injective.eq_iff.symm

end Request

namespace WireArgument

/-! ## Singles on the way -/

/-- A single as it travels: sixteen digits behind `0x`. -/
theorem toJson_single (bits : UInt32) :
    ∃ text digits, (ofArgument? (.single bits)).map toJson =
        some (.object [("kind", .string "float"), ("bits", .string text)]) ∧
      text.toList = '0' :: 'x' :: digits ∧ digits.length = 16 ∧
      Numeral.Spells 16 digits (widen bits.toNat) := by
  -- A widened pattern has 64 bits, so the word that holds it loses none.
  have word : (UInt64.ofNat (widen bits.toNat)).toNat = widen bits.toNat := by
    rw [UInt64.toNat_ofNat', Nat.mod_eq_of_lt (Ieee.widen_lt _)]
  refine ⟨bitsText (UInt64.ofNat (widen bits.toNat)), Numeral.paddedHex 16 (widen bits.toNat), rfl,
    ?_, ?_, ?_⟩
  · rw [bitsText, word, String.toList_ofList, Numeral.hexPattern]
  · exact Numeral.length_paddedHex (by decide) (Ieee.widen_lt _)
  · exact Numeral.spells_paddedHex 16 _

theorem eq_of_toJson_eq {a b : UInt32} (number : single.isNan a.toNat = false)
    (same : (ofArgument? (.single a)).map toJson = (ofArgument? (.single b)).map toJson) :
    a = b := by
  have texts :
      bitsText (UInt64.ofNat (widen a.toNat)) = bitsText (UInt64.ofNat (widen b.toNat)) := by
    simpa [ofArgument?, toJson] using same
  have words := congrArg UInt64.toNat (bitsText_injective texts)
  rw [UInt64.toNat_ofNat', UInt64.toNat_ofNat', Nat.mod_eq_of_lt (Ieee.widen_lt _),
    Nat.mod_eq_of_lt (Ieee.widen_lt _)] at words
  exact UInt32.toNat_inj.1 (Ieee.eq_of_widen_eq a.toNat_lt b.toNat_lt number words)

/-- A single travels as the sixteen digits of the double that denotes the same number or infinity
with the same sign, whether it is normal, subnormal or zero; what is not a number travels as what is
not a number, with the same sign. So a single that is a number or an infinity travels as no other
single does. -/
theorem single_travels_exactly (bits : UInt32) :
    ∃ text digits wide, (ofArgument? (.single bits)).map toJson =
        some (.object [("kind", .string "float"), ("bits", .string text)]) ∧
      text.toList = '0' :: 'x' :: digits ∧ digits.length = 16 ∧ Numeral.Spells 16 digits wide ∧
      (single.isNan bits.toNat = false →
        ∃ amount, (single.datum bits.toNat).denoted? = some amount ∧
          (double.datum wide).denoted? = some amount) ∧
      (single.isNan bits.toNat = true →
        double.isNan wide = true ∧ double.isNegative wide = single.isNegative bits.toNat) ∧
      ∀ other : UInt32, single.isNan bits.toNat = false →
        (ofArgument? (.single bits)).map toJson = (ofArgument? (.single other)).map toJson →
        bits = other := by
  obtain ⟨text, digits, sent, shown, width, spells⟩ := toJson_single bits
  refine ⟨text, digits, widen bits.toNat, sent, shown, width, spells, fun number => ?_,
    fun nan => ?_, fun other number same => eq_of_toJson_eq number same⟩
  · -- Widening keeps what is denoted, and so does the way through the text.
    obtain ⟨amount, denoted⟩ := Ieee.exists_denoted number
    exact ⟨amount, denoted, by rw [Ieee.denoted?_widen, denoted]⟩
  · rw [Ieee.isNan_widen, Ieee.isNegative_widen]
    exact ⟨nan, rfl⟩

/-- The least subnormal, a negative signalling pattern, and the two zeros. -/
theorem single_travels_exactly_at_the_ends :
    (∃ digits wide, digits.length = 16 ∧ Numeral.Spells 16 digits wide ∧
      (double.datum wide).denoted? = (Ieee.Datum.finite false 1 (-149)).denoted?) ∧
    (∃ digits wide, digits.length = 16 ∧ Numeral.Spells 16 digits wide ∧
      double.isNan wide = true ∧ double.isNegative wide = true) ∧
    (ofArgument? (.single 0)).map toJson ≠ (ofArgument? (.single 0x80000000)).map toJson := by
  refine ⟨?_, ?_, ?_⟩
  · obtain ⟨-, digits, wide, -, -, width, spells, number, -⟩ := single_travels_exactly 1
    obtain ⟨amount, least, denoted⟩ := number (by decide)
    exact ⟨digits, wide, width, spells, denoted.trans least.symm⟩
  · obtain ⟨-, digits, wide, -, -, width, spells, -, nan, -⟩ := single_travels_exactly 0xffa00001
    exact ⟨digits, wide, width, spells, nan (by decide)⟩
  · obtain ⟨-, -, -, -, -, -, -, -, -, apart⟩ := single_travels_exactly 0
    intro same
    exact absurd (apart 0x80000000 (by decide) same) (by decide)

end WireArgument

end FormatConformance.Reference
