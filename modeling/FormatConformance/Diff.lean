import FormatConformance.Numeral
import FormatConformance.Text.ByteEscape

/-!
# Differences between payloads

Two payloads are shown line by line where they differ, each line in printable ASCII, with the
offset of the first byte that differs.
-/

namespace FormatConformance.Diff

/-- The length of the longest common start of two byte strings. -/
def commonLength : Bytes → Bytes → Nat
  | a :: as, b :: bs => if a = b then commonLength as bs + 1 else 0
  | _, _ => 0

/-- The offset of the first byte that differs, the end of the shorter string counting as one. -/
def firstDifference? (a b : Bytes) : Option Nat :=
  if a = b then none else some (commonLength a b)

/-- The lines of a payload: what stands before, between and after its line feeds. -/
def lines : Bytes → List Bytes
  | [] => [[]]
  | b :: rest =>
    if b = 0x0a then [] :: lines rest
    else match lines rest with
      | [] => [[b]]
      | line :: more => (b :: line) :: more

/-- A line number at which the payloads differ, with the line of each that has one. -/
structure Hunk where
  number : Nat
  reference : Option Bytes
  subject : Option Bytes
  deriving DecidableEq, Repr

/-- The hunks of lines that only the subject has, the first of which has the given number. -/
def subjectOnly (number : Nat) : List Bytes → List Hunk
  | [] => []
  | line :: rest => ⟨number, none, some line⟩ :: subjectOnly (number + 1) rest

/-- The hunks of two lists of lines, the first of which have the given number. -/
def hunksFrom (number : Nat) : List Bytes → List Bytes → List Hunk
  | [], subject => subjectOnly number subject
  | r :: rs, [] => ⟨number, some r, none⟩ :: hunksFrom (number + 1) rs []
  | r :: rs, s :: ss =>
    if r = s then hunksFrom (number + 1) rs ss
    else ⟨number, some r, some s⟩ :: hunksFrom (number + 1) rs ss

/-- The differing lines of two payloads, numbered from one. -/
def hunks (reference subject : Bytes) : List Hunk :=
  hunksFrom 1 (lines reference) (lines subject)

/-- One line of a payload behind a mark. -/
def markedLine (mark : Char) (line : Bytes) : List Char :=
  mark :: '"' :: (Text.ByteEscape.escape line ++ ['"', '\n'])

/-- The text of a hunk. -/
def Hunk.text (h : Hunk) : List Char :=
  "@@ line ".toList ++ Numeral.decimal h.number ++ " @@\n".toList
    ++ (h.reference.map (markedLine '-')).getD [] ++ (h.subject.map (markedLine '+')).getD []

/-- The text for two payloads that differ. -/
def differing (reference subject : Bytes) : List Char :=
  "--- reference\n+++ subject\n".toList ++ (hunks reference subject).flatMap Hunk.text
    ++ "first difference at byte ".toList ++ Numeral.decimal (commonLength reference subject)
    ++ ['\n']

/-- The text for two payloads. -/
def render (reference subject : Bytes) : String :=
  if reference = subject then "[identical]" else String.ofList (differing reference subject)

end FormatConformance.Diff
