import FormatConformance.Text.Blank

/-!
# Flags of patterns

The flags that change how a pattern is read, and reading where blanks do not count: in a verbose
pattern white space and comments may stand between the signs of the notation, and inside of most of
them as well.
-/

namespace FormatConformance.Pattern

/-- The flags that change how a pattern is read. -/
structure Flags where
  ignoreCase : Bool
  /-- A dot stands for a line feed as well. -/
  dotAll : Bool
  /-- A dot stands for no carriage return. -/
  carriageReturn : Bool
  /-- White space and comments do not count. -/
  verbose : Bool
  /-- Sets hold characters. Without it they hold bytes, of which ASCII alone is text. -/
  unicode : Bool
  deriving DecidableEq, Repr

namespace Flags

/-- The flags at the start of a pattern. -/
def initial : Flags :=
  ⟨false, false, false, false, true⟩

/-- The flags with one of them set or cleared. -/
def set? (f : Flags) (name : Char) (value : Bool) : Option Flags :=
  match name with
  | 'i' => some { f with ignoreCase := value }
  | 's' => some { f with dotAll := value }
  | 'R' => some { f with carriageReturn := value }
  | 'x' => some { f with verbose := value }
  | 'u' => some { f with unicode := value }
  | 'm' => some f
  | 'U' => some f
  | _ => none

/-- Applies letters for flags, none of them twice; behind a hyphen they are cleared. -/
def update? (f : Flags) (value : Bool) (seen : List Char) : List Char → Option Flags
  | [] => if value then some f else if seen.head? = some '-' then none else some f
  | c :: rest =>
    if seen.contains c then none
    else if c = '-' then update? f false (c :: seen) rest
    else
      match f.set? c value with
      | some f => update? f value (c :: seen) rest
      | none => none

/-! ## Blanks in verbose patterns -/

/-- The text behind white space and comments, which start with a number sign and end with the
line. -/
def behindBlanks (inComment : Bool) : List Char → List Char
  | [] => []
  | c :: rest =>
    if inComment then behindBlanks (c ≠ '\n') rest
    else if Text.isBlank c then behindBlanks false rest
    else if c = '#' then behindBlanks true rest
    else c :: rest

/-- The text behind what does not count. -/
def skip (f : Flags) (text : List Char) : List Char :=
  if f.verbose then behindBlanks false text else text

/-- The leading characters with a property, without the white space and the comments before and
between them, and the text behind. -/
def spanCounted (p : Char → Bool) (inComment : Bool) : List Char → List Char × List Char
  | [] => ([], [])
  | c :: rest =>
    if inComment then spanCounted p (c ≠ '\n') rest
    else if Text.isBlank c then spanCounted p false rest
    else if c = '#' then spanCounted p true rest
    else if p c then
      let (taken, behind) := spanCounted p false rest
      (c :: taken, behind)
    else ([], c :: rest)

/-- The leading characters with a property, without what does not count, and the text behind. -/
def span (f : Flags) (p : Char → Bool) (text : List Char) : List Char × List Char :=
  if f.verbose then spanCounted p false text else text.span p

/-- A number of characters with a property, without what does not count, and the text behind. -/
def take? (f : Flags) (p : Char → Bool) : Nat → List Char → Option (List Char × List Char)
  | 0, text => some ([], f.skip text)
  | n + 1, text =>
    match f.skip text with
    | [] => none
    | c :: rest =>
      if p c then (take? f p n rest).map fun taken => (c :: taken.1, taken.2) else none

/-- The character that is seen ahead in a verbose pattern: behind white space and the start of one
comment, but not behind that comment. -/
def aheadInVerbose? (inComment : Bool) : List Char → Option Char
  | [] => none
  | c :: rest =>
    if Text.isBlank c then aheadInVerbose? inComment rest
    else if c = '#' && !inComment then aheadInVerbose? true rest
    else some c

/-- The character that is seen ahead. -/
def ahead? (f : Flags) (text : List Char) : Option Char :=
  if f.verbose then aheadInVerbose? false text else text.head?

theorem skip_of_not_verbose {f : Flags} (h : f.verbose = false) (text : List Char) :
    f.skip text = text := by
  simp [skip, h]

end Flags

end FormatConformance.Pattern
