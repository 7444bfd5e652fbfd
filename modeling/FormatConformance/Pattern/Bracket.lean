import FormatConformance.Pattern.Escape

/-!
# Sets in brackets

A set of characters by its members: characters, ranges, named sets, and sets in brackets of their
own, joined by operations on sets. A bracket may deny its members. Where sets hold bytes, nothing in
brackets may reach beyond ASCII, so that nothing can be denied there.
-/

namespace FormatConformance.Pattern

/-- The operations on sets. -/
inductive SetOp
  | inter
  | diff
  | symmDiff

/-- The result of an operation. -/
def SetOp.apply : SetOp → CharSet → CharSet → CharSet
  | inter => CharSet.inter
  | diff => CharSet.diff
  | symmDiff => CharSet.symmDiff

/-- A set with how deeply its parts are nested. -/
structure NestedSet where
  set : CharSet
  depth : Nat

/-- A bracket in the making. -/
structure Bracket where
  denied : Bool
  /-- What stands to the left of an operation, and the operation. -/
  left : Option (NestedSet × SetOp)
  /-- The members since the last operation. -/
  members : CharSet
  /-- How many items there are since then. -/
  count : Nat
  /-- The depth of the deepest of them. -/
  depth : Nat

namespace Bracket

/-- The items since the last operation. More than one are a union, which is one step deeper. -/
def union (b : Bracket) : NestedSet :=
  ⟨b.members, if 2 ≤ b.count then b.depth + 1 else b.depth⟩

/-- The set so far. -/
def value (b : Bracket) : NestedSet :=
  match b.left with
  | none => b.union
  | some (left, op) => ⟨op.apply left.set b.members, max left.depth b.union.depth + 1⟩

/-- The set with an operation behind it. -/
def operate (b : Bracket) (op : SetOp) : Bracket :=
  { b with left := some (b.value, op), members := .empty, count := 0, depth := 0 }

/-- Whether a set can be a part of a pattern: where sets hold bytes, only within ASCII. -/
def admits (f : Flags) (set : CharSet) : Bool :=
  f.unicode || set.isAscii

/-- The bracket with one more item. -/
def add? (f : Flags) (b : Bracket) (item : NestedSet) : Option Bracket :=
  let set := if f.ignoreCase then item.set.ignoringCase else item.set
  if admits f set then
    some { b with members := b.members.union set, count := b.count + 1,
                  depth := max b.depth item.depth }
  else none

/-- The set when its bracket closes. -/
def close? (f : Flags) (b : Bracket) : Option NestedSet :=
  let value := b.value
  let set := if b.denied then value.set.complement else value.set
  if admits f set then some ⟨set, value.depth + 1⟩ else none

/-- Takes hyphens off the front of a text, as members. -/
def openHyphens (f : Flags) (b : Bracket) : Nat → List Char → Bracket × List Char
  | fuel + 1, '-' :: rest =>
    openHyphens f { b with members := .singleton '-', count := b.count + 1 } fuel (f.skip rest)
  | _, text => (b, text)

/-- The start of a set behind its bracket. Hyphens there, or else a closing bracket, are members. -/
def start (f : Flags) (text : List Char) : Bracket × List Char :=
  let (denied, text) := match f.skip text with
    | '^' :: rest => (true, f.skip rest)
    | other => (false, other)
  let (b, text) := openHyphens f ⟨denied, none, .empty, 0, 0⟩ text.length text
  match text with
  | ']' :: rest =>
    if b.count = 0 then ({ b with members := .singleton ']', count := 1 }, f.skip rest)
    else (b, text)
  | _ => (b, text)

/-- An ASCII class behind its bracket and colon. -/
def readAsciiClass? (text : List Char) : Option (CharSet × List Char) :=
  let (denied, text) := match text with
    | '^' :: rest => (true, rest)
    | other => (false, other)
  match text.span (· ≠ ':') with
  | (name, ':' :: ']' :: rest) =>
    ((CharSet.asciiClasses.find? fun row => row.1 = String.ofList name).map (·.2)).map fun set =>
      (if denied then set.complement else set, rest)
  | _ => none

/-- One member of a set, or an escape for several. -/
def readMember? (f : Flags) (text : List Char) : Option (Escape × List Char) :=
  match text with
  | [] => none
  | '\\' :: rest => Escape.read? f rest
  | c :: rest => some (.char c, rest)

/-- The set that a member stands for. -/
def memberSet? : Escape → Option CharSet
  | .char c => some (.singleton c)
  | .set s => some s
  | .place => none

/-- A member or a range of members. A hyphen makes a range, but not before another hyphen or the
closing bracket. -/
def readRange? (f : Flags) (text : List Char) : Option (CharSet × List Char) := do
  let (first, rest) ← readMember? f text
  let rest := f.skip rest
  match rest with
  | '-' :: behind =>
    if f.ahead? behind = some ']' || f.ahead? behind = some '-' then
      return (← memberSet? first, rest)
    let (last, rest) ← readMember? f (f.skip behind)
    match first, last with
    | .char low, .char high =>
      if low ≤ high then return (.range low high, rest) else none
    | _, _ => none
  | _ => return (← memberSet? first, rest)

/-- Reads a set up to its closing bracket. -/
def read? (f : Flags) : Nat → Bracket → List Bracket → List Char → Option (NestedSet × List Char)
  | 0, _, _, _ => none
  | fuel + 1, b, outer, text =>
    match f.skip text with
    | [] => none
    | ']' :: rest => do
      let closed ← b.close? f
      match outer with
      | [] => return (closed, rest)
      | around :: outer => read? f fuel (← around.add? f closed) outer rest
    | '[' :: rest =>
      let named := match rest with
        | ':' :: behind => readAsciiClass? behind
        | _ => none
      match named with
      | some (set, rest) => do read? f fuel (← b.add? f ⟨set, 0⟩) outer rest
      | none =>
        let (inner, rest) := start f rest
        read? f fuel inner (b :: outer) rest
    | '&' :: '&' :: rest => read? f fuel (b.operate .inter) outer rest
    | '-' :: '-' :: rest => read? f fuel (b.operate .diff) outer rest
    | '~' :: '~' :: rest => read? f fuel (b.operate .symmDiff) outer rest
    | text => do
      let (set, rest) ← readRange? f text
      read? f fuel (← b.add? f ⟨set, 0⟩) outer rest

end Bracket

end FormatConformance.Pattern
