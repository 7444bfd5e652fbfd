import FormatConformance.Json.Token
import FormatConformance.Json.Value

/-!
# JSON documents

What a text is by syntax alone: fields in the order in which they stand, repeated keys included,
and strings and numbers that may have no value. Lexemes are assembled by a machine with a stack of
the arrays and objects that are still open. A document becomes a value when all its parts have
values and it is not nested too deeply; of repeated keys the last one counts.
-/

namespace FormatConformance.Json

/-- A text by its syntax. -/
inductive Document
  | null
  | bool (value : Bool)
  | number (value : Option Number)
  | string (value : Option String)
  | array (items : List Document)
  | object (fields : List (Option String × Document))
  deriving Repr

namespace Document

/-- An array or object that is still open, with its parts so far in reverse. -/
inductive Frame
  | items (before : List Document)
  | fields (before : List (Option String × Document))
  /-- An object in which the value of a key is still to come. -/
  | pending (before : List (Option String × Document)) (key : Option String)

/-- What may come next. -/
inductive Expected
  | value
  | valueOrClose
  | key
  | keyOrClose
  | colon (key : Option String)
  | separator
  | nothing (result : Document)

/-- The state between two lexemes: what may come next, and what is open. -/
structure Assembly where
  expected : Expected
  stack : List Frame

namespace Assembly

/-- Before the first lexeme. -/
def start : Assembly :=
  ⟨.value, []⟩

/-- A complete value put where it belongs. -/
def put (value : Document) : List Frame → Option Assembly
  | [] => some ⟨.nothing value, []⟩
  | .items before :: stack => some ⟨.separator, .items (value :: before) :: stack⟩
  | .pending before key :: stack => some ⟨.separator, .fields ((key, value) :: before) :: stack⟩
  | .fields _ :: _ => none

/-- A lexeme where a value may stand. -/
def beginValue (stack : List Frame) : Token → Option Assembly
  | .null => put .null stack
  | .bool value => put (.bool value) stack
  | .number value => put (.number value) stack
  | .string value => put (.string value) stack
  | .openBracket => some ⟨.valueOrClose, .items [] :: stack⟩
  | .openBrace => some ⟨.keyOrClose, .fields [] :: stack⟩
  | _ => none

/-- The end of the array or object opened last. -/
def close (token : Token) : List Frame → Option Assembly
  | .items before :: stack =>
    if token = .closeBracket then put (.array before.reverse) stack else none
  | .fields before :: stack =>
    if token = .closeBrace then put (.object before.reverse) stack else none
  | _ => none

/-- One lexeme. -/
def step (a : Assembly) (token : Token) : Option Assembly :=
  match a.expected, token with
  | .value, _ => beginValue a.stack token
  | .valueOrClose, .closeBracket => close token a.stack
  | .valueOrClose, _ => beginValue a.stack token
  | .keyOrClose, .closeBrace => close token a.stack
  | .keyOrClose, .string key => some ⟨.colon key, a.stack⟩
  | .key, .string key => some ⟨.colon key, a.stack⟩
  | .colon key, .colon =>
    match a.stack with
    | .fields before :: stack => some ⟨.value, .pending before key :: stack⟩
    | _ => none
  | .separator, .comma =>
    match a.stack with
    | .items _ :: _ => some ⟨.value, a.stack⟩
    | .fields _ :: _ => some ⟨.key, a.stack⟩
    | _ => none
  | .separator, _ => close token a.stack
  | _, _ => none

/-- The document, when nothing is missing. -/
def result? (a : Assembly) : Option Document :=
  match a.expected with
  | .nothing result => some result
  | _ => none

end Assembly

/-- The document that a list of lexemes spells. -/
def ofTokens? (tokens : List Token) : Option Document := do
  let assembly ← tokens.foldlM Assembly.step Assembly.start
  assembly.result?

/-- Reads a text by its syntax. -/
def read? (text : String) : Option Document := do
  let tokens ← Token.lex text.toList
  ofTokens? tokens

mutual

/-- How many arrays and objects stand inside one another. -/
def depth : Document → Nat
  | array items => depthOfItems items + 1
  | object fields => depthOfFields fields + 1
  | _ => 0

/-- The greatest depth of some items. -/
def depthOfItems : List Document → Nat
  | [] => 0
  | item :: items => max (depth item) (depthOfItems items)

/-- The greatest depth of some fields. -/
def depthOfFields : List (Option String × Document) → Nat
  | [] => 0
  | (_, value) :: fields => max (depth value) (depthOfFields fields)

end

/-- How many arrays and objects may stand inside one another in a value. -/
def depthLimit : Nat := 127

mutual

/-- The value of a document, however deeply it is nested. -/
def evaluate : Document → Option Json
  | null => some .null
  | bool value => some (.bool value)
  | number value => value.map .number
  | string value => value.map .string
  | array items => (evaluateItems items).map .array
  | object fields => (evaluateFields fields []).map .object

/-- The values of some items. -/
def evaluateItems : List Document → Option (List Json)
  | [] => some []
  | item :: items => do
    let value ← evaluate item
    let values ← evaluateItems items
    return value :: values

/-- Puts the values of some fields, in their order, into fields sorted by key. -/
def evaluateFields :
    List (Option String × Document) → List (String × Json) → Option (List (String × Json))
  | [], sofar => some sofar
  | (key, value) :: fields, sofar => do
    let key ← key
    let value ← evaluate value
    evaluateFields fields (insertField key value sofar)

end

/-- The value of a document. -/
def value? (d : Document) : Option Json :=
  if d.depth ≤ depthLimit then d.evaluate else none

mutual

/-- The document of a value. -/
def ofValue : Json → Document
  | .null => null
  | .bool value => bool value
  | .number value => number (some value)
  | .string value => string (some value)
  | .array items => array (ofItems items)
  | .object fields => object (ofFields fields)

/-- The documents of some values. -/
def ofItems : List Json → List Document
  | [] => []
  | item :: items => ofValue item :: ofItems items

/-- The documents of some fields. -/
def ofFields : List (String × Json) → List (Option String × Document)
  | [] => []
  | (key, value) :: fields => (some key, ofValue value) :: ofFields fields

end

end Document

/-- Reads a text as a value. -/
def read? (text : String) : Option Json := do
  let document ← Document.read? text
  document.value?

end FormatConformance.Json
