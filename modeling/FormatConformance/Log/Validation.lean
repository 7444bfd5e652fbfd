import FormatConformance.Log.Entry

/-!
# Checking log lines

A line is checked in stages: it must be a JSON value, then an object, then have the required fields
and known words for level and outcome, then fit the schema of an entry. Only the last stage to be
reached reports anything.
-/

namespace FormatConformance.Log

open Json

/-- One thing that is wrong with a line. -/
structure Violation where
  line : Nat
  /-- The field, or a word in angle brackets for the line as a whole. -/
  field : String
  message : String
  deriving DecidableEq, Repr

namespace Violation

/-- The violation on one line. -/
def text (v : Violation) : String :=
  "line " ++ toString v.line ++ ": field '" ++ v.field ++ "': " ++ v.message

/-- The line is no JSON value. -/
def json (line : Nat) : Violation :=
  ⟨line, "<json>", "invalid JSON"⟩

/-- The line is no object. -/
def root (line : Nat) : Violation :=
  ⟨line, "<root>", "expected JSON object"⟩

/-- A required field is not there. -/
def missing (line : Nat) (field : String) : Violation :=
  ⟨line, field, "required field missing"⟩

/-- A field has a word that is not known. -/
def unknownWord (line : Nat) (field word : String) : Violation :=
  ⟨line, field, "invalid " ++ field ++ ": '" ++ word ++ "'"⟩

/-- The object is no entry. -/
def schema (line : Nat) : Violation :=
  ⟨line, "<schema>", "not a log entry"⟩

end Violation

/-- The violation of a field that is a string outside a set of words. -/
def wordViolations (line : Nat) (object : Json) (field : String) (words : List String) :
    List Violation :=
  match object.field? field with
  | some (.string word) => if words.contains word then [] else [.unknownWord line field word]
  | _ => []

/-- What is wrong with the fields of an object, apart from their types. -/
def fieldViolations (line : Nat) (object : Json) : List Violation :=
  (Entry.requiredNames.filter fun name => (object.field? name).isNone).map (Violation.missing line)
    ++ wordViolations line object "level" (Level.all.map Level.name)
    ++ wordViolations line object "outcome" (Status.all.map Status.name)

/-- Reads a line of the log as an entry, or says what is wrong with it. -/
def validate (text : String) (line : Nat) : Except (List Violation) Entry :=
  match Json.read? text with
  | none => .error [.json line]
  | some (.object fields) =>
    match fieldViolations line (.object fields) with
    | [] =>
      match Entry.ofDocument? (Document.ofValue (.object fields)) with
      | some entry => .ok entry
      | none => .error [.schema line]
    | violations => .error violations
  | some _ => .error [.root line]

end FormatConformance.Log
