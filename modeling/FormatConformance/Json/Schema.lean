import FormatConformance.Json.Document

/-!
# Reading records from documents

The rules by which a document is read as a record: fields in any order with unknown ones skipped
unread, or an array of the fields in their order; no known field twice; an absent or null optional
field is none; a word from a fixed set may also be an object that maps it to null.
-/

namespace FormatConformance.Json.Schema

/-- A string. -/
def text? : Document → Option String
  | .string value => value
  | _ => none

/-- A truth value. -/
def bool? : Document → Option Bool
  | .bool value => some value
  | _ => none

/-- A natural number up to a bound. -/
def nat? (bound : Nat) : Document → Option Nat
  | .number (some (.int (.ofNat n))) => if n ≤ bound then some n else none
  | _ => none

/-- A natural number of 64 bits. -/
def word64? : Document → Option Nat :=
  nat? FormatConformance.Numeral.maxWord64

/-- A natural number of 32 bits. -/
def word32? : Document → Option Nat :=
  nat? FormatConformance.Numeral.maxWord32

/-- A list. -/
def list? {α : Type} (read : Document → Option α) : Document → Option (List α)
  | .array items => items.mapM read
  | _ => none

/-- The member of a fixed set that has a name. -/
def named? {α : Type} (all : List α) (name : α → String) (word : String) : Option α :=
  all.find? fun a => name a = word

/-- A word from a fixed set. -/
def word? {α : Type} (all : List α) (name : α → String) : Document → Option α
  | .string (some word) => named? all name word
  | .object [(some word, .null)] => named? all name word
  | _ => none

/-- An optional value. -/
def optional? {α : Type} (read : Document → Option α) : Document → Option (Option α)
  | .null => some none
  | d => (read d).map some

/-- The values of the fields with a name. -/
def valuesOf (name : String) (fields : List (Option String × Document)) : List Document :=
  fields.filterMap fun field => if field.1 = some name then some field.2 else none

/-- The value of the field with a name, none inside when it is absent. -/
def slot? (fields : List (Option String × Document)) (name : String) : Option (Option Document) :=
  match valuesOf name fields with
  | [] => some none
  | [value] => some (some value)
  | _ => none

/-- The values of the fields of a record, in the order of their names. As an array a record has a
value for each field, or at least for the first `needed` ones. -/
def slots? (names : List String) (needed : Nat) : Document → Option (List (Option Document))
  | .array items =>
    if needed ≤ items.length ∧ items.length ≤ names.length then
      some (items.map some ++ List.replicate (names.length - items.length) none)
    else none
  | .object fields =>
    if fields.all (·.1.isSome) then names.mapM (slot? fields) else none
  | _ => none

/-- A field that must be there. -/
def required? {α : Type} (read : Document → Option α) (slot : Option Document) : Option α :=
  slot.bind read

/-- A field that may be absent or null. -/
def absentOr? {α : Type} (read : Document → Option α) : Option Document → Option (Option α)
  | none => some none
  | some d => optional? read d

end FormatConformance.Json.Schema
