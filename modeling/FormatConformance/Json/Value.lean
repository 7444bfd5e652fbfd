import FormatConformance.Json.Number

/-!
# JSON values

Values with the fields of an object in the order in which they are written. A value read from a
text has its keys sorted and without repetition; a record is written in the order of its fields.
-/

namespace FormatConformance

/-- A JSON value. -/
inductive Json
  | null
  | bool (value : Bool)
  | number (value : Json.Number)
  | string (value : String)
  | array (items : List Json)
  | object (fields : List (String × Json))
  deriving Repr

namespace Json

/-- A natural number. -/
def nat (n : Nat) : Json :=
  number (.int n)

/-- An optional value, null when it is absent. -/
def ofOption {α : Type} (encode : α → Json) : Option α → Json
  | none => null
  | some a => encode a

/-- A record of which absent fields are left out. -/
def record (fields : List (String × Option Json)) : Json :=
  object (fields.filterMap fun f => f.2.map (f.1, ·))

/-- Puts a field into fields sorted by key, in place of one with the same key. -/
def insertField (key : String) (value : Json) : List (String × Json) → List (String × Json)
  | [] => [(key, value)]
  | field :: rest =>
    if key < field.1 then (key, value) :: field :: rest
    else if key = field.1 then (key, value) :: rest
    else field :: insertField key value rest

/-- The value of a field of an object. -/
def field? (key : String) : Json → Option Json
  | object fields => (fields.find? (·.1 = key)).map (·.2)
  | _ => none

/-- The text of a string value. -/
def text? : Json → Option String
  | string s => some s
  | _ => none

end Json

end FormatConformance
