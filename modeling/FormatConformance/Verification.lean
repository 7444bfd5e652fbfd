import FormatConformance.Record

/-!
# Verification of fixed cases

The result of each fixed case and their summary, with its markdown form: a table of all cases and a
section for each one that failed. A pipe in a name would end its cell and is escaped.
-/

namespace FormatConformance.Verification

open Json

/-- The result of one fixed case. -/
structure Result where
  caseName : String
  entryPoint : String
  passed : Bool
  expected : String
  actual : String
  /-- What is wrong, when the case failed. -/
  diff : Option String
  deriving DecidableEq, Repr

/-- The results of a table of cases with their counts. -/
structure Summary where
  total : UInt64
  passed : UInt64
  failed : UInt64
  results : List Result
  deriving DecidableEq, Repr

namespace Result

/-- The JSON form of a result. The difference is written even when there is none. -/
def toJson (r : Result) : Json :=
  .record [field "case_name" (.string r.caseName), field "entry_point" (.string r.entryPoint),
    field "passed" (.bool r.passed), field "expected" (.string r.expected),
    field "actual" (.string r.actual), field "diff" (.ofOption .string r.diff)]

/-- Reads a result. -/
def ofDocument? (d : Document) : Option Result := do
  match ← Schema.slots?
      ["case_name", "entry_point", "passed", "expected", "actual", "diff"] 6 d with
  | [caseName, entryPoint, passed, expected, actual, diff] =>
    let caseName ← Schema.required? Schema.text? caseName
    let entryPoint ← Schema.required? Schema.text? entryPoint
    let passed ← Schema.required? Schema.bool? passed
    let expected ← Schema.required? Schema.text? expected
    let actual ← Schema.required? Schema.text? actual
    let diff ← Schema.absentOr? Schema.text? diff
    return ⟨caseName, entryPoint, passed, expected, actual, diff⟩
  | _ => none

end Result

namespace Summary

/-- The summary of results. -/
def ofResults (results : List Result) : Summary :=
  let passed := (results.filter Result.passed).length
  ⟨UInt64.ofNat results.length, UInt64.ofNat passed, UInt64.ofNat (results.length - passed),
    results⟩

/-- Whether no case failed. -/
def allPassed (s : Summary) : Bool :=
  s.failed = 0

/-- The JSON form of a summary. -/
def toJson (s : Summary) : Json :=
  .record [field "total" (.nat s.total.toNat), field "passed" (.nat s.passed.toNat),
    field "failed" (.nat s.failed.toNat), field "results" (.array (s.results.map Result.toJson))]

/-- Reads a summary. -/
def ofDocument? (d : Document) : Option Summary := do
  match ← Schema.slots? ["total", "passed", "failed", "results"] 4 d with
  | [total, passed, failed, results] =>
    let total ← Schema.required? readWord64? total
    let passed ← Schema.required? readWord64? passed
    let failed ← Schema.required? readWord64? failed
    let results ← Schema.required? (Schema.list? Result.ofDocument?) results
    return ⟨total, passed, failed, results⟩
  | _ => none

/-! ## Markdown -/

/-- A text with a backslash before every pipe. -/
def escapePipes (text : List Char) : List Char :=
  text.flatMap fun c => if c = '|' then ['\\', '|'] else [c]

/-- A line of a list with a label. -/
def labelled (label : String) (value : List Char) : List Char :=
  "- ".toList ++ label.toList ++ ": ".toList ++ value ++ ['\n']

/-- A row of the table, with its line break. -/
def row (r : Result) : List Char :=
  "| `".toList ++ escapePipes r.caseName.toList ++ "` | ".toList ++ r.entryPoint.toList
    ++ " | ".toList ++ (if r.passed then "PASS" else "FAIL").toList ++ " |\n".toList

/-- The two lines above the rows of the table. -/
def tableHead : List Char :=
  "| Case | Entry | Status |\n|------|-------|--------|\n".toList

/-- The table of all cases. -/
def table (s : Summary) : List Char :=
  tableHead ++ s.results.flatMap row

/-- The section of a case that failed. -/
def failureSection (r : Result) : List Char :=
  "\n## `".toList ++ r.caseName.toList ++ "`\n\n- expected: `".toList ++ r.expected.toList
    ++ "`\n- actual: `".toList ++ r.actual.toList ++ "`\n".toList
    ++ match r.diff with
      | some diff => "\n```\n".toList ++ diff.toList ++ "\n```\n".toList
      | none => []

/-- The markdown form of a summary. -/
def markdown (s : Summary) (title : String) : List Char :=
  "# ".toList ++ title.toList ++ "\n\n".toList
    ++ labelled "Total" (Numeral.decimal s.total.toNat)
    ++ labelled "Passed" (Numeral.decimal s.passed.toNat)
    ++ labelled "Failed" (Numeral.decimal s.failed.toNat)
    ++ '\n' :: s.table ++ (s.results.filter fun r => !r.passed).flatMap failureSection

end Summary

end FormatConformance.Verification
