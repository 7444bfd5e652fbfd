import FormatConformance.CommandLine.Execution
import FormatConformance.Proofs.Computation
import FormatConformance.Proofs.Numeral
import FormatConformance.Proofs.Text.Trimming

/-!
# Seeds read back

`Denotes` says which texts are seeds: hexadecimal digits behind `0x`, or decimal digits, of a number
of 64 bits. `Stripped` says what of a text is looked at: what stands inside the white space around
it, less the underscores. A text is read just when what is left of it denotes a seed
(`read?_eq_some_iff`). The text of a seed holds neither white space nor underscores and so comes
back as the seed (`read?_text`), which is why a run can be repeated from its report.
-/

namespace FormatConformance

open Numeral (SpellsUnsigned hexBody? hexPattern readUnsigned maxWord64 decimal digitChar
  exists_digit_of_mem exists_digit_of_mem_paddedHex readUnsigned_eq_ok_iff readUnsigned_paddedHex
  readUnsigned_decimal)

namespace Seed

/-! ## The texts of seeds -/

/-- The texts that denote a number, without white space and underscores: hexadecimal behind `0x`,
and decimal otherwise. -/
inductive Denotes : List Char → Nat → Prop
  | hexadecimal {x : Char} {digits : List Char} {n : Nat} (mark : x = 'x' ∨ x = 'X')
    (spells : SpellsUnsigned 16 digits n) : Denotes ('0' :: x :: digits) n
  | decimal {text : List Char} {n : Nat}
    (unmarked : ∀ x digits, text = '0' :: x :: digits → x ≠ 'x' ∧ x ≠ 'X')
    (spells : SpellsUnsigned 10 text n) : Denotes text n

/-- A text with white space around it and underscores in it, and the text without them. -/
def Stripped (typed text : List Char) : Prop :=
  ∃ inner, Text.Padded typed inner ∧ Text.Unpadded inner ∧ text = inner.filter (· ≠ '_')

theorem stripped_iff {typed text : List Char} : Stripped typed text ↔ text = cleaned typed := by
  constructor
  · rintro ⟨inner, around, unpadded, rfl⟩
    rw [cleaned, Text.trim_of_padded around unpadded]
  · rintro rfl
    exact ⟨Text.trim typed, Text.padded_trim typed, Text.unpadded_trim typed, rfl⟩

theorem hexBody?_eq_some_iff {text digits : List Char} :
    hexBody? text = some digits ↔ ∃ x, (x = 'x' ∨ x = 'X') ∧ text = '0' :: x :: digits := by
  constructor
  · intro body
    unfold hexBody? at body
    split at body
    · exact ⟨'x', .inl rfl, by rw [Option.some.inj body]⟩
    · exact ⟨'X', .inr rfl, by rw [Option.some.inj body]⟩
    · cases body
  · rintro ⟨x, rfl | rfl, rfl⟩
    · rfl
    · rfl

theorem hexBody?_eq_none_iff {text : List Char} :
    hexBody? text = none ↔ ∀ x digits, text = '0' :: x :: digits → x ≠ 'x' ∧ x ≠ 'X' := by
  rw [Option.eq_none_iff_forall_ne_some]
  constructor
  · intro unmarked x digits same
    have other : ¬(x = 'x' ∨ x = 'X') := fun mark =>
      unmarked digits (hexBody?_eq_some_iff.2 ⟨x, mark, same⟩)
    exact not_or.1 other
  · rintro unmarked digits body
    obtain ⟨x, mark, same⟩ := hexBody?_eq_some_iff.1 body
    exact not_or.2 (unmarked x digits same) mark

theorem denotes_iff_of_some {text digits : List Char} {n : Nat}
    (body : hexBody? text = some digits) : Denotes text n ↔ SpellsUnsigned 16 digits n := by
  obtain ⟨x, mark, rfl⟩ := hexBody?_eq_some_iff.1 body
  constructor
  · rintro (⟨-, spells⟩ | ⟨unmarked, -⟩)
    · exact spells
    · exact absurd mark (not_or.2 (unmarked x digits rfl))
  · exact .hexadecimal mark

theorem denotes_iff_of_none {text : List Char} {n : Nat} (body : hexBody? text = none) :
    Denotes text n ↔ SpellsUnsigned 10 text n := by
  have unmarked := hexBody?_eq_none_iff.1 body
  constructor
  · rintro (⟨mark, -⟩ | ⟨-, spells⟩)
    · exact absurd mark (not_or.2 (unmarked _ _ rfl))
    · exact spells
  · exact .decimal unmarked

/-! ## Reading -/

theorem word_eq_some_iff {base : Nat} {text : List Char} {seed : Seed} (positive : 0 < base)
    (hexadecimal : base ≤ 16) :
    (readUnsigned base maxWord64 text).toOption.map UInt64.ofNat = some seed ↔
      SpellsUnsigned base text seed.toNat := by
  have fits : seed.toNat ≤ maxWord64 := Nat.le_of_lt_succ seed.toNat_lt
  constructor
  · intro read
    cases value : readUnsigned base maxWord64 text with
    | error => simp [value, Except.toOption] at read
    | ok n =>
      -- What was read is no greater than a word can be.
      obtain rfl : UInt64.ofNat n = seed := by simpa [value, Except.toOption] using read
      obtain ⟨small, spells⟩ := (readUnsigned_eq_ok_iff positive hexadecimal).1 value
      rwa [UInt64.toNat_ofNat_of_lt' (Nat.lt_succ_of_le small)]
  · intro spells
    rw [(readUnsigned_eq_ok_iff positive hexadecimal).2 ⟨fits, spells⟩]
    exact congrArg some UInt64.ofNat_toNat

/-- A text is read as a seed just when what is left of it denotes that seed. -/
theorem read?_eq_some_iff {text : String} {seed : Seed} :
    read? text = some seed ↔ ∃ body, Stripped text.toList body ∧ Denotes body seed.toNat := by
  simp only [stripped_iff, exists_eq_left]
  rw [read?]
  -- The mark of a hexadecimal number decides which of the two forms is meant.
  cases body : hexBody? (cleaned text.toList) with
  | some digits => rw [denotes_iff_of_some body, ← word_eq_some_iff (by decide) (by decide)]
  | none => rw [denotes_iff_of_none body, ← word_eq_some_iff (by decide) (by decide)]

theorem read?_eq_none_iff {text : String} :
    read? text = none ↔
      ∀ body, Stripped text.toList body → ∀ n < 2 ^ 64, ¬Denotes body n := by
  rw [Option.eq_none_iff_forall_ne_some]
  constructor
  · intro refused body stripped n small denotes
    refine refused (UInt64.ofNat n) (read?_eq_some_iff.2 ⟨body, stripped, ?_⟩)
    rwa [UInt64.toNat_ofNat_of_lt' small]
  · intro refused seed read
    obtain ⟨body, stripped, denotes⟩ := read?_eq_some_iff.1 read
    exact refused body stripped seed.toNat seed.toNat_lt denotes

/-! ## Written seeds -/

theorem cleaned_of_forall_mem {text : List Char}
    (solid : ∀ c ∈ text, Text.isBlank c = false ∧ c ≠ '_') : cleaned text = text := by
  have unpadded : Text.Unpadded text :=
    Text.unpadded_of_forall_mem fun c mem => (solid c mem).1
  rw [cleaned, Text.trim_of_unpadded unpadded, List.filter_eq_self]
  intro c mem
  simpa using (solid c mem).2

theorem solid_digitChar : ∀ d < 16, Text.isBlank (digitChar d) = false ∧ digitChar d ≠ '_' := by
  decide

theorem read?_text (seed : Seed) : read? seed.text = some seed := by
  have fits : seed.toNat ≤ maxWord64 := Nat.le_of_lt_succ seed.toNat_lt
  have solid : ∀ c ∈ hexPattern 16 seed.toNat, Text.isBlank c = false ∧ c ≠ '_' := by
    intro c mem
    -- The mark in front, and then the digits.
    rcases List.mem_cons.1 mem with rfl | mem
    · decide
    rcases List.mem_cons.1 mem with rfl | mem
    · decide
    obtain ⟨d, small, rfl⟩ := exists_digit_of_mem_paddedHex mem
    exact solid_digitChar d small
  rw [read?, text, String.toList_ofList, cleaned_of_forall_mem solid]
  show (readUnsigned 16 maxWord64 (Numeral.paddedHex 16 seed.toNat)).toOption.map _ = _
  rw [readUnsigned_paddedHex fits]
  exact congrArg some UInt64.ofNat_toNat

theorem read?_decimal (seed : Seed) :
    read? (String.ofList (decimal seed.toNat)) = some seed := by
  have fits : seed.toNat ≤ maxWord64 := Nat.le_of_lt_succ seed.toNat_lt
  have digit : ∀ c ∈ decimal seed.toNat, ∃ d < 10, c = digitChar d := fun _ =>
    exists_digit_of_mem (by decide)
  have solid : ∀ c ∈ decimal seed.toNat, Text.isBlank c = false ∧ c ≠ '_' := by
    intro c mem
    obtain ⟨d, small, rfl⟩ := digit c mem
    exact solid_digitChar d (by omega)
  -- A decimal has no letter, so it is not taken for a number in hexadecimal.
  have unmarked : hexBody? (decimal seed.toNat) = none := by
    rw [hexBody?_eq_none_iff]
    intro x digits same
    have other : ∀ d < 10, digitChar d ≠ 'x' ∧ digitChar d ≠ 'X' := by decide
    obtain ⟨d, small, rfl⟩ := digit x (by simp [same])
    exact other d small
  rw [read?, String.toList_ofList, cleaned_of_forall_mem solid, unmarked,
    readUnsigned_decimal fits]
  exact congrArg some UInt64.ofNat_toNat

/-! ## Runs repeated

A run is determined by its seed, its settings and its sides. A report that shows the seed is enough
to start the same run, as long as the text of the seed is read back. -/

theorem seed_of_report {σ : Type} (runner : Run.Runner σ) {title reference : String}
    {entries : List EntryPoint} {table : List Scenario} {before after : σ}
    {report : Report}
    (ran : (runner.report title reference entries table).run before = (.ok report, after)) :
    report.seed = runner.circumstances.seed.text := by
  obtain ⟨now, awake, -, ran⟩ := Check.ok_of_bind ran
  obtain ⟨results, middle, -, ran⟩ := Check.ok_of_bind ran
  obtain ⟨summary, _, -, ran⟩ := Check.ok_of_bind ran
  cases ran
  rfl

/-- A run that is told the text of a seed has that seed, whatever the environment says. -/
theorem seed_of_runSettings? (settings : Settings) (options : CommandLine.RunOptions)
    (seed : Seed) :
    ∃ told, CommandLine.runSettings? settings { options with seed := some seed.text } = .ok told ∧
      ∀ {σ : Type} (sides : Sides σ) (clock : Clock σ) (other : Seed),
        (Run.Runner.ofSettings sides clock told other).circumstances.seed = seed := by
  have given : CommandLine.seedOf? (some seed.text) = .ok (some seed) := by
    rw [CommandLine.seedOf?, read?_text]
  simp only [CommandLine.runSettings?, given]
  exact ⟨_, rfl, fun _ _ _ => rfl⟩

/-- What is read is the text without the white space around it and the underscores in it: it is read
as a seed just when it denotes that number of 64 bits, and refused when it denotes none. So the text
in a new report and the decimal text are read as the seed they were written for, and a run that is
told the seed of the report of another run has the seed of that run. -/
theorem read?_iff_denotes_and_repeats :
    (∀ text seed, read? text = some seed ↔
      ∃ body, Stripped text.toList body ∧ Denotes body seed.toNat) ∧
    (∀ text, read? text = none ↔
      ∀ body, Stripped text.toList body → ∀ n < 2 ^ 64, ¬Denotes body n) ∧
    (∀ seed now title reference, read? (Report.new now title seed reference).seed = some seed) ∧
    (∀ seed, read? (String.ofList (decimal seed.toNat)) = some seed) ∧
    ∀ {σ : Type} (runner : Run.Runner σ) title reference entries table before report after,
      (runner.report title reference entries table).run before = (.ok report, after) →
      ∀ settings (options : CommandLine.RunOptions), ∃ told,
        CommandLine.runSettings? settings { options with seed := some report.seed } = .ok told ∧
        ∀ {τ : Type} (sides : Sides τ) (clock : Clock τ) (other : Seed),
          (Run.Runner.ofSettings sides clock told other).circumstances.seed =
            runner.circumstances.seed := by
  refine ⟨fun _ _ => read?_eq_some_iff, fun _ => read?_eq_none_iff,
    fun seed _ _ _ => read?_text seed, read?_decimal, ?_⟩
  intro σ runner title reference entries table before report after ran settings options
  -- The report shows the seed of its runner, and the reader takes it back.
  rw [seed_of_report runner ran]
  exact seed_of_runSettings? settings options _

/-- A runner whose sides render every case to nothing. -/
def idleRunner (seed : Seed) : Run.Runner Unit :=
  Run.Runner.ofSettings
    { format := fun _ => pure (.ok (.success []))
      invoke := fun _ => pure (.ok (.success []))
      probe := fun _ => pure (.ok false) }
    (.stopped .epoch) .default seed

theorem repeats_of_idleRunner :
    ∃ report after told,
      ((idleRunner 42).report "" "" [] []).run () = (.ok report, after) ∧
      report.seed = "0x000000000000002a" ∧
      CommandLine.runSettings? .default ⟨[], none, some report.seed, false, none, none, none⟩ =
        .ok told ∧
      (Run.Runner.ofSettings (idleRunner 42).sides (.stopped .epoch) told 7).circumstances.seed =
        42 := by
  obtain ⟨told, settled, same⟩ :=
    read?_iff_denotes_and_repeats.2.2.2.2 (idleRunner 42) "" "" [] [] () _ _ rfl .default
      ⟨[], none, none, false, none, none, none⟩
  exact ⟨_, _, told, rfl, by decide +kernel, settled, same _ _ _⟩

end Seed

end FormatConformance
