import FormatConformance.Pattern.Basic
import FormatConformance.Pattern.Bracket
import FormatConformance.Text.Letter

/-!
# Reading patterns

The notation of regular expressions: literals, escapes, sets in brackets with their operations,
groups with flags, alternatives and repetitions. A pattern is only read when texts can be generated
from it: what stands for a place and not for a text, such as the start of a line, is refused unless
it is repeated zero times. Look-around and references to groups are no part of the notation, and a
pattern may not be nested too deeply.

Each step of the reader takes at least one character, so that as many steps as there are characters
are enough.
-/

namespace FormatConformance.Pattern.Reader

/-- A pattern, or none for a part from which no text can be generated. -/
abbrev Fragment := Option Pattern

/-- A part of a pattern with how deeply its own parts are nested. -/
structure Part where
  fragment : Fragment
  depth : Nat

/-- An item of a sequence. -/
inductive Item
  | part (part : Part)
  /-- Flags for what follows, which cannot be repeated. -/
  | flags

/-- What stands between a parenthesis and the place that is read, newest first. -/
structure Frame where
  alternatives : List Part
  items : List Item
  /-- The flags behind the group. -/
  flagsBehind : Flags

/-- The state of the reader. -/
structure State where
  flags : Flags
  frame : Frame
  /-- The groups around it, the innermost first. -/
  outer : List Frame
  /-- The names of groups so far. -/
  names : List (List Char)

/-- The start of a group. -/
def Frame.start (flagsBehind : Flags) : Frame :=
  ⟨[], [], flagsBehind⟩

/-- The depth of some parts together, which are one step deeper than the deepest of them unless
there is but one. -/
def depthTogether (depths : List Nat) : Nat :=
  let deepest := depths.foldl max 0
  if 2 ≤ depths.length then deepest + 1 else deepest

/-- The part that an item is, if any. -/
def Item.part? : Item → Option Part
  | .part p => some p
  | .flags => none

/-- How deeply the parts of an item are nested. -/
def Item.depth : Item → Nat
  | .part p => p.depth
  | .flags => 0

/-- The sequence of all items. -/
def Frame.sequence (f : Frame) : Part where
  fragment := ((f.items.reverse.filterMap Item.part?).mapM Part.fragment).map Pattern.sequence
  depth := depthTogether (f.items.map Item.depth)

/-- The choice between some parts, of which there is at least one. -/
def choiceOf (parts : List Part) : Fragment := do
  match ← parts.mapM Part.fragment with
  | p :: rest => return choice p rest
  | [] => return .empty

/-- The group as a whole. -/
def Frame.close (f : Frame) : Part :=
  let parts := f.alternatives.reverse ++ [f.sequence]
  ⟨choiceOf parts, depthTogether (parts.map Part.depth)⟩

/-- The state with one more item. -/
def State.push (s : State) (item : Item) : State :=
  { s with frame := { s.frame with items := item :: s.frame.items } }

/-- The state with a part that has no parts of its own. -/
def State.pushFragment (s : State) (fragment : Fragment) : State :=
  s.push (.part ⟨fragment, 0⟩)

/-! ## Repetitions -/

/-- A number, with white space before it. -/
def readNumber? (f : Flags) (text : List Char) : Option (Nat × List Char) :=
  let (digits, rest) := f.span Char.isDigit (text.dropWhile Text.isBlank)
  if digits.isEmpty then none
  else
    match Numeral.readUnsigned 10 Numeral.maxWord32 digits with
    | .ok n => some (n, rest.dropWhile Text.isBlank)
    | .error _ => none

/-- The bounds of a repetition behind its brace. -/
def readBounds? (f : Flags) (text : List Char) : Option ((Nat × Option Nat) × List Char) := do
  let (least, text) ← readNumber? f (f.skip text)
  match text with
  | '\x7d' :: rest => return ((least, some least), rest)
  | ',' :: rest =>
    match f.skip rest with
    | '\x7d' :: rest => return ((least, none), rest)
    | rest =>
      let (most, rest) ← readNumber? f rest
      match rest with
      | '\x7d' :: rest => if least ≤ most then return ((least, some most), rest) else none
      | _ => none
  | _ => none

/-- A fragment repeated. What can only be the empty text need not be repeated more than once, zero
times any fragment is the empty text, and once it is itself. The greatest number of repetitions that
can be written is too great to be used. -/
def repeated (least : Nat) (most : Option Nat) (fragment : Fragment) : Fragment :=
  if most = some 0 then some .empty
  else
    fragment.bind fun p =>
      let (least, most) := if p.isVoid then (min least 1, some 1) else (least, most)
      if least = 1 ∧ most = some 1 then some p
      else if most = some Numeral.maxWord32 then none
      else some (.times least most p)

/-- The text behind a mark of laziness. -/
def behindLazy (text : List Char) : List Char :=
  match text with
  | '?' :: rest => rest
  | _ => text

/-- Repeats the last item. -/
def repeatLast? (s : State) (least : Nat) (most : Option Nat) : Option State :=
  match s.frame.items with
  | .part part :: items =>
    let repeats : Part := ⟨repeated least most part.fragment, part.depth + 1⟩
    some { s with frame := { s.frame with items := .part repeats :: items } }
  | _ => none

/-! ## Characters -/

/-- A set of characters with the flags applied. -/
def folded (f : Flags) (set : CharSet) : CharSet :=
  if f.ignoreCase then set.ignoringCase else set

/-- Adds a character as an item. -/
def pushChar (s : State) (c : Char) : State :=
  s.pushFragment (some (.oneOf (folded s.flags (.singleton c))))

/-- Adds a set as an item. -/
def pushSet? (s : State) (set : CharSet) : Option State :=
  let set := folded s.flags set
  if Bracket.admits s.flags set then some (s.pushFragment (some (.oneOf set))) else none

/-- The set that a dot stands for. -/
def dotSet (f : Flags) : CharSet :=
  let excluded := (if f.dotAll then [] else ['\n'])
    ++ if f.carriageReturn && !f.dotAll then ['\r'] else []
  (CharSet.ofList excluded).complement

/-- Adds a set in brackets as an item. -/
def pushBracket? (s : State) (text : List Char) : Option (State × List Char) := do
  let (bracket, body) := Bracket.start s.flags text
  let (nested, rest) ← Bracket.read? s.flags (text.length + 1) bracket [] body
  return (s.push (.part ⟨some (.oneOf nested.set), nested.depth⟩), rest)

/-! ## Groups -/

/-- Whether a text is the name of a group: a letter or an underscore, and then also digits, dots
and brackets. -/
def isGroupName : List Char → Bool
  | [] => false
  | c :: rest =>
    (c = '_' || Text.isAlphabetic c)
      && rest.all fun c => ['_', '.', '[', ']'].contains c || Text.isAlphanumeric c

/-- The state inside a group with flags of its own. -/
def State.enter (s : State) (flags : Flags) : State :=
  { s with flags, frame := .start s.flags, outer := s.frame :: s.outer }

/-- Opens a named group behind the angle bracket. -/
def openNamed? (s : State) (text : List Char) : Option (State × List Char) :=
  match text.span (· ≠ '>') with
  | (name, '>' :: rest) =>
    if isGroupName name && !s.names.contains name then
      some ({ s.enter s.flags with names := name :: s.names }, rest)
    else none
  | _ => none

/-- Opens a group behind its parenthesis, or sets flags. -/
def openGroup? (s : State) (text : List Char) : Option (State × List Char) :=
  match s.flags.skip text with
  | '?' :: '=' :: _ => none
  | '?' :: '!' :: _ => none
  | '?' :: '<' :: '=' :: _ => none
  | '?' :: '<' :: '!' :: _ => none
  | '?' :: 'P' :: '<' :: rest => openNamed? s rest
  | '?' :: '<' :: rest => openNamed? s rest
  | '?' :: rest =>
    match rest.span (fun c => !(c = ':' || c = ')')) with
    | (letters, ':' :: rest) => do return (s.enter (← s.flags.update? true [] letters), rest)
    | (letters, ')' :: rest) =>
      if letters.isEmpty then none
      else do return ({ s.push .flags with flags := ← s.flags.update? true [] letters }, rest)
    | _ => none
  | rest => some (s.enter s.flags, rest)

/-- Closes a group. -/
def closeGroup? (s : State) : Option State :=
  match s.outer with
  | [] => none
  | frame :: outer =>
    let inside := s.frame.close
    let group : Part := ⟨inside.fragment, inside.depth + 1⟩
    some { s with flags := s.frame.flagsBehind, outer,
                  frame := { frame with items := .part group :: frame.items } }

/-- Ends an alternative. -/
def endAlternative (s : State) : State :=
  let alternatives := s.frame.sequence :: s.frame.alternatives
  { s with frame := { s.frame with alternatives, items := [] } }

/-! ## The whole pattern -/

/-- Takes one item off the front of a text that is not empty. -/
def step? (s : State) (c : Char) (rest : List Char) : Option (State × List Char) :=
  match c with
  | '(' => openGroup? s rest
  | ')' => (closeGroup? s).map (·, rest)
  | '|' => some (endAlternative s, rest)
  | '[' => pushBracket? s rest
  | '?' => (repeatLast? s 0 (some 1)).map (·, behindLazy rest)
  | '*' => (repeatLast? s 0 none).map (·, behindLazy rest)
  | '+' => (repeatLast? s 1 none).map (·, behindLazy rest)
  | '\x7b' => do
    let ((least, most), rest) ← readBounds? s.flags rest
    return (← repeatLast? s least most, behindLazy (s.flags.skip rest))
  | '^' => some (s.pushFragment none, rest)
  | '$' => some (s.pushFragment none, rest)
  | '.' => (pushSet? s (dotSet s.flags)).map (·, rest)
  | '\\' => do
    let (escape, rest) ← Escape.read? s.flags rest
    match escape with
    | .char c => return (pushChar s c, rest)
    | .set set => return (← pushSet? s set, rest)
    | .place => return (s.pushFragment none, rest)
  | c => some (pushChar s c, rest)

/-- Reads items up to the end of the text. -/
def readItems? : Nat → State → List Char → Option State
  | 0, s, text => if text.isEmpty then some s else none
  | fuel + 1, s, text =>
    match s.flags.skip text with
    | [] => some s
    | c :: rest =>
      match step? s c rest with
      | some (s, rest) => readItems? fuel s rest
      | none => none

/-- How deeply a pattern may be nested. -/
def deepest : Nat :=
  250

end FormatConformance.Pattern.Reader

namespace FormatConformance.Pattern

/-- Reads a pattern. -/
def read? (text : String) : Option Pattern := do
  let chars := text.toList
  let s ← Reader.readItems? (chars.length + 1) ⟨.initial, .start .initial, [], []⟩ chars
  let whole := s.frame.close
  if s.outer.isEmpty && whole.depth ≤ Reader.deepest then whole.fragment else none

end FormatConformance.Pattern
