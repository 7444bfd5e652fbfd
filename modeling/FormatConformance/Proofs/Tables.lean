import FormatConformance.Proofs.Ieee.Marks
import FormatConformance.Proofs.Scenarios
import FormatConformance.Proofs.Text.Cells
import FormatConformance.Proofs.Text.Quoting
import FormatConformance.Proofs.Text.Rows

/-!
# The table of a summary

A table in markdown has no quotes: its cells end at pipes and its rows at line breaks, and only a
backslash keeps a pipe inside a cell. The names of cases are quoted texts, made of anything at all,
and their pipes are escaped by a plain replacement that looks at nothing around them. That this is
right hangs on the quotation. There every backslash belongs to an escape, and takes what stands
behind it, so before a pipe of the name they come in pairs, and the one that the replacement puts
there is one more (`fits_escaped`, `fits_name`).

A row is then one line with the three cells that it should have (`Shows`, `shows_line`), and the
page of a verification has just these rows in its table, in the order of the scenarios
(`Scenario.splitOn_markdown_of_verifyAll`).
-/

namespace FormatConformance

open Text

namespace Verification

/-! ## What a row has to be -/

/-- The characters at which a text may be broken into lines. -/
def lineBreaks : List Char :=
  ['\n', '\x0b', '\x0c', '\r', '\u0085', '\u2028', '\u2029']

/-- A text with every backslash taken away that stands before a pipe. -/
def unescapePipes : List Char → List Char
  | '\\' :: '|' :: rest => '|' :: unescapePipes rest
  | c :: rest => c :: unescapePipes rest
  | [] => []

/-- A line is the row of a result: it is one line with four open pipes, and the three cells between
them show the name of the case with backslashes before its pipes, the entry point and the status. -/
structure Shows (line : List Char) (r : Result) : Prop where
  single : ∀ c ∈ line, c ∉ lineBreaks
  pipes : (openPipes line).length = 4
  cells : ∃ name, unescapePipes name = r.caseName.toList ∧
    Cells line [' ' :: '`' :: (name ++ ['`', ' ']), ' ' :: (r.entryPoint.toList ++ [' ']),
      ' ' :: ((if r.passed then "PASS" else "FAIL").toList ++ [' '])]

namespace Summary

/-! ## Escaping -/

theorem escapePipes_cons (c : Char) (text : List Char) :
    escapePipes (c :: text) = (if c = '|' then ['\\', '|'] else [c]) ++ escapePipes text :=
  List.flatMap_cons

theorem escapePipes_append (a b : List Char) :
    escapePipes (a ++ b) = escapePipes a ++ escapePipes b :=
  List.flatMap_append

theorem escapePipes_of_not_mem {text : List Char} (none : '|' ∉ text) :
    escapePipes text = text := by
  induction text with
  | nil => rfl
  | cons c text ih =>
    obtain ⟨first, others⟩ := List.ne_and_not_mem_of_not_mem_cons none
    rw [escapePipes_cons, if_neg (Ne.symm first), ih others, List.singleton_append]

/-- No pipe stands at the front, so a backslash that comes before it is not taken for its escape. -/
theorem escapePipes_ne_pipe (text rest : List Char) : escapePipes text ≠ '|' :: rest := by
  cases text with
  | nil => exact (List.cons_ne_nil _ _).symm
  | cons c text =>
    rw [escapePipes_cons]
    split_ifs with pipe
    · simp
    · simp [pipe]

theorem unescapePipes_escapePipes (text : List Char) : unescapePipes (escapePipes text) = text := by
  induction text with
  | nil => rfl
  | cons c text ih =>
    rw [escapePipes_cons]
    split_ifs with pipe
    · rw [pipe]
      exact congrArg _ ih
    · rw [List.singleton_append, unescapePipes, ih]
      exact fun rest _ same => escapePipes_ne_pipe text rest same

/-! ## Texts that fit into a cell

A text fits when its pipes are closed once they are escaped and none of its characters breaks a
line. Both are kept when texts are put together, so they are shown of one character at a time. -/

/-- A text that can stand in a cell. -/
structure Fits (text : List Char) : Prop where
  closed : Sealed (escapePipes text)
  marked : Quoted.Marked text

theorem Fits.append {a b : List Char} (first : Fits a) (second : Fits b) : Fits (a ++ b) where
  closed := by
    rw [escapePipes_append]
    exact first.closed.append second.closed
  marked := first.marked.append second.marked

/-- A text in which no character needs an escape. -/
def Plain (text : List Char) : Prop :=
  ∀ c ∈ text, isPrintable c = true ∧ c ≠ '\\' ∧ c ≠ '|'

instance (text : List Char) : Decidable (Plain text) :=
  List.decidableBAll _ text

theorem Plain.append {a b : List Char} (first : Plain a) (second : Plain b) : Plain (a ++ b) :=
  List.forall_mem_append.2 ⟨first, second⟩

theorem fits_of_plain {text : List Char} (plain : Plain text) : Fits text where
  closed := by
    rw [escapePipes_of_not_mem fun mem => (plain '|' mem).2.2 rfl]
    exact sealed_of_plain fun c mem => (plain c mem).2
  marked c mem := (plain c mem).1

theorem plain_hexDigits (n : Nat) : Plain (Numeral.digits 16 n) := by
  have table : ∀ d < 16, Plain [Numeral.digitChar d] := by decide
  exact Numeral.forall_mem_digits (by decide) (fun d small => table d small _ (.head _)) n

/-- What becomes of a character in quotes fits: the backslash of an escape takes what stands behind
it, and a pipe, which is not escaped in quotes, gets a backslash of its own. -/
theorem fits_escaped {c : Char} {text : List Char} (escaped : Quoted.Escaped c text)
    (marked : Quoted.Marked text) : Fits text := by
  refine ⟨?_, marked⟩
  cases escaped with
  | plain quote backslash =>
    by_cases pipe : c = '|'
    · -- The replacement makes a pair of it.
      rw [pipe]
      exact sealed_pair '|'
    · rw [escapePipes_of_not_mem (by simpa using Ne.symm pipe)]
      exact sealed_singleton backslash pipe
  | letter l named =>
    have other : '|' ≠ l := by
      rintro rfl
      cases named
    rw [escapePipes_of_not_mem (by simp [other])]
    exact sealed_pair l
  | code =>
    -- A code point is written between braces, and none of its digits is a pipe.
    have opening : Plain ['\x7b'] := by decide
    have closing : Plain ['\x7d'] := by decide
    have behind := opening.append ((plain_hexDigits c.toNat).append closing)
    exact (sealed_pair 'u').append (fits_of_plain behind).closed

theorem fits_body (text : List Char) : Fits (Quoted.body text) := by
  induction text with
  | nil => exact fits_of_plain (by decide)
  | cons c text ih =>
    rw [Quoted.body_cons]
    exact (fits_escaped (Quoted.escaped_escapeChar rfl c) (Quoted.marked_escapeChar _ c)).append ih

theorem fits_quote (text : List Char) : Fits (Quoted.quote text) := by
  have mark : Fits ['"'] := fits_of_plain (by decide)
  exact mark.append ((fits_body text).append mark)

theorem plain_marks : Plain "0123456789+-.e".toList := by decide

theorem plain_patternComment (width bits : Nat) : Plain (Argument.patternComment width bits) := by
  have opening : Plain " /* ".toList := by decide
  have mark : Plain ['0', 'x'] := by decide
  have closing : Plain " */".toList := by decide
  have zeros : Plain (List.replicate (width - (Numeral.digits 16 bits).length) '0') :=
    Ieee.Style.forall_mem_zeros plain_marks _
  exact (opening.append (mark.append (zeros.append (plain_hexDigits bits)))).append closing

theorem plain_float (l : Ieee.Layout) (bits : Nat) : Plain (Argument.floatStyle.text l bits) := by
  have names : Plain (Argument.floatStyle.nan.toList ++ Argument.floatStyle.infinity.toList) := by
    decide
  exact Ieee.Style.forall_mem_text plain_marks names l bits

theorem fits_literal (a : Argument) : Fits a.literal := by
  cases a with
  | nothing => exact fits_of_plain (show Plain [] by decide)
  | int value => exact fits_of_plain (Ieee.Style.forall_mem_signedDecimal plain_marks _)
  | single bits =>
    have suffix : Plain "f32".toList := by decide
    exact fits_of_plain (((plain_float _ _).append suffix).append (plain_patternComment _ _))
  | double bits => exact fits_of_plain ((plain_float _ _).append (plain_patternComment _ _))
  | text value => exact fits_quote value.toList

theorem fits_name (s : Scenario) : Fits s.name.toList := by
  have opening : Fits ".format(".toList := fits_of_plain (by decide)
  have closing : Fits [')'] := fits_of_plain (by decide)
  rw [Scenario.name, Case.replay, String.toList_ofList]
  exact (((fits_quote _).append opening).append (fits_literal _)).append closing

theorem plain_entryPoint (entry : EntryPoint) : Plain entry.name.toList := by
  cases entry <;> decide

/-! ## Rows -/

/-- The cells of the row of a result. -/
def cells (r : Result) : List (List Char) :=
  [' ' :: '`' :: (escapePipes r.caseName.toList ++ ['`', ' ']),
    ' ' :: (r.entryPoint.toList ++ [' ']),
    ' ' :: ((if r.passed then "PASS" else "FAIL").toList ++ [' '])]

/-- The row of a result without its line break. -/
def line (r : Result) : List Char :=
  '|' :: (cells r).flatMap (· ++ ['|'])

theorem row_eq (r : Result) : row r = line r ++ ['\n'] := by
  have spelled : row r = ['|', ' ', '`'] ++ escapePipes r.caseName.toList ++ ['`', ' ', '|', ' ']
      ++ r.entryPoint.toList ++ [' ', '|', ' '] ++ (if r.passed then "PASS" else "FAIL").toList
      ++ [' ', '|', '\n'] := rfl
  rw [spelled]
  -- What is left is associativity.
  simp only [line, cells, List.flatMap_cons, List.flatMap_nil, List.append_assoc,
    List.cons_append, List.nil_append]

theorem unmarked_lineBreaks : ∀ c ∈ lineBreaks, isPrintable c = false :=
  List.forall_iff_forall_mem.1 (by decide)

theorem marked_escapePipes {text : List Char} (marked : Quoted.Marked text) :
    Quoted.Marked (escapePipes text) := by
  have escape : Quoted.Marked ['\\', '|'] := by decide
  refine List.forall_mem_flatMap.2 fun c mem => ?_
  split_ifs with pipe
  · exact escape
  · exact List.forall_mem_singleton.2 (marked c mem)

/-- What plain texts have and texts keep when they are put together, all cells have if the name has
it with its pipes escaped. -/
theorem forall_mem_cells {Q : List Char → Prop} {r : Result}
    (append : ∀ {a b}, Q a → Q b → Q (a ++ b)) (plain : ∀ {text}, Plain text → Q text)
    (name : Q (escapePipes r.caseName.toList)) (entry : Plain r.entryPoint.toList) :
    ∀ cell ∈ cells r, Q cell := by
  have space : Q [' '] := plain (by decide)
  have front : Q [' ', '`'] := plain (by decide)
  have back : Q ['`', ' '] := plain (by decide)
  -- The status is one of two words.
  have status : Q (if r.passed then "PASS" else "FAIL").toList := by
    split_ifs
    · exact plain (by decide)
    · exact plain (by decide)
  simp only [cells, List.forall_mem_cons]
  exact ⟨append front (append name back), append space (append (plain entry) space),
    append space (append status space), by simp⟩

/-- A result whose name fits into a cell and whose entry point needs no escape has a row. -/
theorem shows_line {r : Result} (name : Fits r.caseName.toList)
    (entry : Plain r.entryPoint.toList) : Shows (line r) r := by
  -- A cell that is closed leaves the pipes between the cells open.
  have closed : ∀ cell ∈ cells r, Sealed cell :=
    forall_mem_cells Sealed.append (fun plain => sealed_of_plain fun c mem => (plain c mem).2)
      name.closed entry
  have marked : ∀ cell ∈ cells r, Quoted.Marked cell :=
    forall_mem_cells Quoted.Marked.append (fun plain c mem => (plain c mem).1)
      (marked_escapePipes name.marked) entry
  have visible : Quoted.Marked (line r) := by
    have bar : Quoted.Marked ['|'] := by decide
    refine bar.append (List.forall_mem_flatMap.2 fun cell mem => ?_)
    exact (marked cell mem).append bar
  have row : Cells (line r) (cells r) := cells_of_sealed closed
  refine ⟨fun c mem broken => ?_, row.length_openPipes, _, unescapePipes_escapePipes _, row⟩
  have shown := visible c mem
  rw [unmarked_lineBreaks c broken] at shown
  cases shown

/-! ## Lines -/

/-- The lines with the counts. -/
def counts (s : Summary) : List (List Char) :=
  ["- Total: ".toList ++ Numeral.decimal s.total.toNat,
    "- Passed: ".toList ++ Numeral.decimal s.passed.toNat,
    "- Failed: ".toList ++ Numeral.decimal s.failed.toNat]

/-- The header of the table. -/
def header : List (List Char) :=
  ["| Case | Entry | Status |".toList, "|------|-------|--------|".toList]

theorem unrows_counts (s : Summary) :
    labelled "Total" (Numeral.decimal s.total.toNat) ++
      labelled "Passed" (Numeral.decimal s.passed.toNat) ++
      labelled "Failed" (Numeral.decimal s.failed.toNat) = unrows s.counts := by
  rw [unrows, counts, List.flatMap_cons, List.flatMap_cons, List.flatMap_singleton,
    List.append_assoc]
  rfl

theorem table_eq (s : Summary) : s.table = unrows (header ++ s.results.map line) := by
  have rows : s.results.flatMap row = unrows (s.results.map line) := by
    rw [unrows, List.flatMap_map]
    exact List.flatMap_congr fun r _ => row_eq r
  rw [table, rows, unrows, unrows, List.flatMap_append]
  rfl

theorem not_mem_counts (s : Summary) : ∀ row ∈ s.counts, '\n' ∉ row := by
  have digits (n : Nat) : '\n' ∉ Numeral.decimal n := fun mem =>
    absurd (Ieee.Style.forall_mem_decimal plain_marks n _ mem).1 (by decide)
  simp only [counts, List.forall_mem_cons, List.mem_append, not_or]
  exact ⟨⟨by decide, digits _⟩, ⟨by decide, digits _⟩, ⟨by decide, digits _⟩, by simp⟩

/-- The sections of the cases that failed begin with an empty line, and so does their absence. -/
theorem splitOn_sections (failed : List Result) :
    ∃ below, (failed.flatMap failureSection).splitOn '\n' = [] :: below := by
  cases failed with
  | nil => exact ⟨[], rfl⟩
  | cons r failed =>
    obtain ⟨rest, text⟩ : ∃ rest, (r :: failed).flatMap failureSection = '\n' :: rest := ⟨_, rfl⟩
    rw [text]
    exact ⟨_, List.splitOn_append_cons_self [] rest⟩

theorem splitOn_markdown (s : Summary) (title : String)
    (single : ∀ r ∈ s.results, '\n' ∉ line r) :
    ∃ below, (s.markdown title).splitOn '\n' = ('#' :: ' ' :: title.toList).splitOn '\n' ++
      [] :: (s.counts ++ [] :: (header ++ (s.results.map line ++ [] :: below))) := by
  obtain ⟨below, sections⟩ := splitOn_sections (s.results.filter fun r => !r.passed)
  have whole : ∀ row ∈ [] :: (s.counts ++ [] :: (header ++ s.results.map line)), '\n' ∉ row := by
    have none : '\n' ∉ ([] : List Char) := List.not_mem_nil
    have header : ∀ row ∈ header, '\n' ∉ row := by decide
    simp only [List.forall_mem_cons, List.forall_mem_append, List.forall_mem_map]
    exact ⟨none, not_mem_counts s, none, header, single⟩
  have spelled : s.markdown title = ['#', ' '] ++ title.toList ++ ['\n', '\n']
      ++ labelled "Total" (Numeral.decimal s.total.toNat)
      ++ labelled "Passed" (Numeral.decimal s.passed.toNat)
      ++ labelled "Failed" (Numeral.decimal s.failed.toNat)
      ++ '\n' :: s.table ++ (s.results.filter fun r => !r.passed).flatMap failureSection := rfl
  -- The title may have line breaks of its own, so everything behind it is taken row by row.
  have text : s.markdown title = ('#' :: ' ' :: title.toList) ++ '\n' ::
      (unrows ([] :: (s.counts ++ [] :: (header ++ s.results.map line))) ++
        (s.results.filter fun r => !r.passed).flatMap failureSection) := by
    rw [spelled, unrows_cons, unrows_append, unrows_cons, ← unrows_counts, ← table_eq]
    simp only [List.append_assoc, List.cons_append, List.nil_append]
  refine ⟨below, ?_⟩
  rw [text, List.splitOn_append_cons_self, splitOn_unrows_append whole, sections]
  simp only [List.append_assoc, List.cons_append]

end Summary

end Verification

namespace Scenario

open Verification

variable {σ : Type}

/-- A table that comes out has a result for each of its scenarios, in order. -/
theorem results_of_verifyAll {sides : Sides σ} {table : List Scenario} {start after : σ}
    {summary : Verification.Summary}
    (ran : (verifyAll sides table).run start = (.ok summary, after)) :
    ∃ rows : List Row, rows.map Row.scenario = table ∧ summary.results = rows.map Row.result := by
  obtain ⟨results, t, each, summed⟩ := Check.ok_of_bind ran
  -- What is put down about the calls does not matter here.
  obtain ⟨history, result, u, plain, -, tabled⟩ :=
    transcribes_verifyEach (fun _ (nothing : Unit) => nothing) sides table start
  rw [plain] at each
  obtain ⟨rfl, -⟩ := Prod.mk.inj each
  obtain ⟨same, -⟩ := Prod.mk.inj summed
  obtain rfl := Except.ok.inj same
  cases tabled with
  | seen rows observed => exact ⟨rows, rfl, rfl⟩

/-- The table in the page of a verification has a row for each result and no other, in order,
whatever the scenarios are made of: each row is one line of three cells that shows its result, and
the results are those of the scenarios. -/
theorem splitOn_markdown_of_verifyAll (sides : Sides σ) (table : List Scenario) {start after : σ}
    {summary : Verification.Summary}
    (ran : (verifyAll sides table).run start = (.ok summary, after)) (title : String) :
    ∃ rows below, (summary.markdown title).splitOn '\n' =
        ('#' :: ' ' :: title.toList).splitOn '\n' ++
          [] :: (summary.counts ++ [] :: (Summary.header ++ (rows ++ [] :: below))) ∧
      List.Forall₂ Shows rows summary.results ∧
      (summary.results.map fun r => (r.caseName, r.entryPoint)) =
        table.map fun s => (s.name, s.input.entryPoint.name) := by
  obtain ⟨seen, rfl, results⟩ := results_of_verifyAll ran
  have shown : ∀ r ∈ summary.results, Shows (Summary.line r) r := by
    rw [results]
    refine List.forall_mem_map.2 fun row _ => ?_
    exact Summary.shows_line (Summary.fits_name row.scenario) (Summary.plain_entryPoint _)
  have single : ∀ r ∈ summary.results, '\n' ∉ Summary.line r := fun r mem feed =>
    (shown r mem).single '\n' feed (by decide)
  obtain ⟨below, lines⟩ := Summary.splitOn_markdown summary title single
  refine ⟨_, below, lines, ?_, ?_⟩
  · rw [List.forall₂_map_left_iff, List.forall₂_same]
    exact shown
  · rw [results, List.map_map, List.map_map]
    rfl

/-- Scenarios with pipes, backslashes, quotes and line breaks at every turn. -/
def raggedTable : List Scenario :=
  [⟨⟨"|\\|", "", "\n\"|", .text "a\\\\|\u2028`"⟩, .agreement⟩,
    ⟨.ofTemplate "\\|\r\\", .rejected⟩]

/-- Sides that give back what they are asked to format. -/
def echoing : Sides Scripted.Counters :=
  Scripted.sides (.script ⟨.echoes "", []⟩) (.scripted (.script ⟨.echoes "", []⟩) none)

theorem splitOn_markdown_of_verifyAll_ragged :
    ∃ (summary : Summary) (after : Scripted.Counters) (rows below : List (List Char)),
      (verifyAll echoing raggedTable).run .zero = (.ok summary, after) ∧
      summary.results.map Result.passed = [true, false] ∧
      (summary.markdown "a|b\n").splitOn '\n' =
        ('#' :: ' ' :: "a|b\n".toList).splitOn '\n' ++
          [] :: (summary.counts ++ [] :: (Summary.header ++ (rows ++ [] :: below))) ∧
      List.Forall₂ Shows rows summary.results ∧
      (summary.results.map fun r => (r.caseName, r.entryPoint)) =
        raggedTable.map fun s => (s.name, s.input.entryPoint.name) := by
  have seen : ((verifyAll echoing raggedTable).run .zero).1.toOption.map
      (fun summary => summary.results.map Result.passed) = some [true, false] := by
    decide +kernel
  rcases ran : (verifyAll echoing raggedTable).run .zero with ⟨fault | summary, after⟩
  · rw [ran] at seen
    cases seen
  · rw [ran] at seen
    obtain ⟨rows, below, shown⟩ :=
      splitOn_markdown_of_verifyAll echoing raggedTable ran "a|b\n"
    exact ⟨summary, after, rows, below, rfl, Option.some.inj seen, shown⟩

end Scenario

end FormatConformance
