import FormatConformance.Json.Document
import FormatConformance.Proofs.Json.Lexing

/-!
# Written values read back

A document is assembled from its own lexemes by the machine with a stack, whatever is open around it
(`builds_tokens`), and the compact form of a value is cut into just the lexemes of its document
(`legible_of_integral`). Together the reader gets back what the printer wrote (`read?_line`), with
the fields in the order in which they were written, for every value whose numbers are integers.

Both halves are inductions on the shape of a value with lists inside, for which the recursor that
Lean generates is of little use: `Json.induction`, `Document.induction` and `Integral` give the
parts of a list by membership.
-/

namespace FormatConformance.Json

open Token

/-- Values by their parts. -/
protected theorem induction {P : Json → Prop} (null : P null) (bool : ∀ value, P (bool value))
    (number : ∀ value, P (number value)) (string : ∀ value, P (string value))
    (array : ∀ items, (∀ item ∈ items, P item) → P (array items))
    (object : ∀ fields, (∀ field ∈ fields, P field.2) → P (object fields)) (j : Json) : P j :=
  match j with
  | .null => null
  | .bool value => bool value
  | .number value => number value
  | .string value => string value
  | .array items =>
    array items fun item _ => Json.induction null bool number string array object item
  | .object fields =>
    object fields fun field _ => Json.induction null bool number string array object field.2
termination_by sizeOf j
decreasing_by
  · have smaller := List.sizeOf_lt_of_mem ‹item ∈ items›
    simp only [Json.array.sizeOf_spec]
    omega
  · have smaller := List.sizeOf_lt_of_mem ‹field ∈ fields›
    have part : sizeOf field.2 < sizeOf field := by
      cases field
      simp
    simp only [Json.object.sizeOf_spec]
    omega

namespace Document

/-- Documents by their parts. -/
theorem induction {P : Document → Prop} (null : P null) (bool : ∀ value, P (bool value))
    (number : ∀ value, P (number value)) (string : ∀ value, P (string value))
    (array : ∀ items, (∀ item ∈ items, P item) → P (array items))
    (object : ∀ fields, (∀ field ∈ fields, P field.2) → P (object fields)) (d : Document) : P d :=
  match d with
  | .null => null
  | .bool value => bool value
  | .number value => number value
  | .string value => string value
  | .array items =>
    array items fun item _ => induction null bool number string array object item
  | .object fields =>
    object fields fun field _ => induction null bool number string array object field.2
termination_by sizeOf d
decreasing_by
  · have smaller := List.sizeOf_lt_of_mem ‹item ∈ items›
    simp only [Document.array.sizeOf_spec]
    omega
  · have smaller := List.sizeOf_lt_of_mem ‹field ∈ fields›
    have part : sizeOf field.2 < sizeOf field := by
      cases field
      simp
    simp only [Document.object.sizeOf_spec]
    omega

/-! ## The lexemes of a document

The reader keeps what is open on a stack. The lexemes of a document put the document where a value
is awaited and leave the stack below it alone, whatever it is. -/

mutual

/-- The lexemes of a document. -/
def tokens : Document → List Token
  | null => [.null]
  | bool value => [.bool value]
  | number value => [.number value]
  | string value => [.string value]
  | array [] => [.openBracket, .closeBracket]
  | array (item :: items) => .openBracket :: (tokens item ++ tokensOfItems items ++ [.closeBracket])
  | object [] => [.openBrace, .closeBrace]
  | object (field :: fields) =>
    .openBrace :: (tokensOfField field ++ tokensOfFields fields ++ [.closeBrace])

/-- The lexemes of the later items of an array. -/
def tokensOfItems : List Document → List Token
  | [] => []
  | item :: items => .comma :: (tokens item ++ tokensOfItems items)

/-- The lexemes of a field of an object. -/
def tokensOfField : Option String × Document → List Token
  | (key, value) => .string key :: .colon :: tokens value

/-- The lexemes of the later fields of an object. -/
def tokensOfFields : List (Option String × Document) → List Token
  | [] => []
  | field :: fields => .comma :: (tokensOfField field ++ tokensOfFields fields)

end

namespace Assembly

/-- Where a value may stand. -/
inductive AwaitsValue : Expected → Prop
  | value : AwaitsValue .value
  | valueOrClose : AwaitsValue .valueOrClose

/-- Where a key may stand. -/
inductive AwaitsKey : Expected → Prop
  | key : AwaitsKey .key
  | keyOrClose : AwaitsKey .keyOrClose

variable {a b : Assembly} {e : Expected} {stack : List Frame} {token : Token}
  {first later : List Token}

theorem foldlM_step_cons (step_eq : step a token = some b) :
    (token :: later).foldlM step a = later.foldlM step b := by
  rw [List.foldlM_cons, step_eq]
  rfl

theorem foldlM_step_append (first_eq : first.foldlM step a = some b) :
    (first ++ later).foldlM step a = later.foldlM step b := by
  rw [List.foldlM_append, first_eq]
  rfl

theorem foldlM_step_single : [token].foldlM step a = step a token := by
  simp

theorem step_of_awaitsValue (awaits : AwaitsValue e) (opens : token ≠ .closeBracket) :
    step ⟨e, stack⟩ token = beginValue stack token := by
  cases awaits with
  | value => rfl
  | valueOrClose => cases token <;> first | rfl | exact absurd rfl opens

/-- Lexemes that put a document where a value may stand, whatever is open around it. -/
def Builds (tokens : List Token) (d : Document) : Prop :=
  ∀ e, AwaitsValue e → ∀ stack, tokens.foldlM step ⟨e, stack⟩ = put d stack

theorem Builds.single {d : Document} (opens : token ≠ .closeBracket)
    (begins : ∀ stack, beginValue stack token = put d stack) : Builds [token] d := by
  intro e awaits stack
  rw [foldlM_step_single, step_of_awaitsValue awaits opens, begins]

/-- The later items of an array come behind those that are there. -/
theorem foldlM_tokensOfItems {items : List Document}
    (each : ∀ item ∈ items, Builds item.tokens item) (before : List Document) :
    (tokensOfItems items).foldlM step ⟨.separator, .items before :: stack⟩ =
      some ⟨.separator, .items (items.reverse ++ before) :: stack⟩ := by
  induction items generalizing before with
  | nil => rfl
  | cons item items ih =>
    obtain ⟨first, others⟩ := List.forall_mem_cons.1 each
    have comma : step ⟨.separator, .items before :: stack⟩ .comma =
        some ⟨.value, .items before :: stack⟩ := rfl
    -- The item is read with the list of those before it below it on the stack.
    have placed := first .value .value (.items before :: stack)
    rw [tokensOfItems, foldlM_step_cons comma, foldlM_step_append placed, ih others,
      List.reverse_cons, List.append_assoc, List.singleton_append]

theorem foldlM_tokensOfField {field : Option String × Document}
    (value : Builds field.2.tokens field.2) (awaits : AwaitsKey e)
    (before : List (Option String × Document)) :
    (tokensOfField field).foldlM step ⟨e, .fields before :: stack⟩ =
      some ⟨.separator, .fields (field :: before) :: stack⟩ := by
  obtain ⟨key, d⟩ := field
  have named : step ⟨e, .fields before :: stack⟩ (.string key) =
      some ⟨.colon key, .fields before :: stack⟩ := by
    cases awaits <;> rfl
  have colon : step ⟨.colon key, .fields before :: stack⟩ .colon =
      some ⟨.value, .pending before key :: stack⟩ := rfl
  rw [tokensOfField, foldlM_step_cons named, foldlM_step_cons colon]
  exact value .value .value (.pending before key :: stack)

/-- The later fields of an object come behind those that are there. -/
theorem foldlM_tokensOfFields {fields : List (Option String × Document)}
    (each : ∀ field ∈ fields, Builds field.2.tokens field.2)
    (before : List (Option String × Document)) :
    (tokensOfFields fields).foldlM step ⟨.separator, .fields before :: stack⟩ =
      some ⟨.separator, .fields (fields.reverse ++ before) :: stack⟩ := by
  induction fields generalizing before with
  | nil => rfl
  | cons field fields ih =>
    obtain ⟨first, others⟩ := List.forall_mem_cons.1 each
    have comma : step ⟨.separator, .fields before :: stack⟩ .comma =
        some ⟨.key, .fields before :: stack⟩ := rfl
    rw [tokensOfFields, foldlM_step_cons comma,
      foldlM_step_append (foldlM_tokensOfField first .key before), ih others,
      List.reverse_cons, List.append_assoc, List.singleton_append]

theorem builds_array {items : List Document} (each : ∀ item ∈ items, Builds item.tokens item) :
    Builds (array items).tokens (array items) := by
  intro e awaits stack
  have opened : step ⟨e, stack⟩ .openBracket = some ⟨.valueOrClose, .items [] :: stack⟩ :=
    step_of_awaitsValue awaits (by decide)
  cases items with
  -- An empty array is closed where its first item could stand.
  | nil =>
    rw [tokens, foldlM_step_cons opened, foldlM_step_single]
    rfl
  | cons item items =>
    obtain ⟨first, others⟩ := List.forall_mem_cons.1 each
    have placed := first .valueOrClose .valueOrClose (.items [] :: stack)
    have closed : step ⟨.separator, .items (items.reverse ++ [item]) :: stack⟩ .closeBracket =
        put (.array (items.reverse ++ [item]).reverse) stack := rfl
    rw [tokens, foldlM_step_cons opened, List.append_assoc, foldlM_step_append placed,
      foldlM_step_append (foldlM_tokensOfItems others [item]), foldlM_step_single, closed,
      List.reverse_append, List.reverse_reverse]
    rfl

theorem builds_object {fields : List (Option String × Document)}
    (each : ∀ field ∈ fields, Builds field.2.tokens field.2) :
    Builds (object fields).tokens (object fields) := by
  intro e awaits stack
  have opened : step ⟨e, stack⟩ .openBrace = some ⟨.keyOrClose, .fields [] :: stack⟩ :=
    step_of_awaitsValue awaits (by decide)
  cases fields with
  | nil =>
    rw [tokens, foldlM_step_cons opened, foldlM_step_single]
    rfl
  | cons field fields =>
    obtain ⟨first, others⟩ := List.forall_mem_cons.1 each
    have closed : step ⟨.separator, .fields (fields.reverse ++ [field]) :: stack⟩ .closeBrace =
        put (.object (fields.reverse ++ [field]).reverse) stack := rfl
    rw [tokens, foldlM_step_cons opened, List.append_assoc,
      foldlM_step_append (foldlM_tokensOfField first .keyOrClose []),
      foldlM_step_append (foldlM_tokensOfFields others [field]), foldlM_step_single, closed,
      List.reverse_append, List.reverse_reverse]
    rfl

/-- Every document is built by its lexemes. -/
theorem builds_tokens (d : Document) : Builds d.tokens d := by
  induction d using Document.induction with
  | null => exact .single (by decide) fun _ => rfl
  | bool value => exact .single (by simp) fun _ => rfl
  | number value => exact .single (by simp) fun _ => rfl
  | string value => exact .single (by simp) fun _ => rfl
  | array items each => exact builds_array each
  | object fields each => exact builds_object each

end Assembly

theorem ofTokens?_tokens (d : Document) : ofTokens? d.tokens = some d := by
  have built : d.tokens.foldlM Assembly.step Assembly.start = some ⟨.nothing d, []⟩ :=
    Assembly.builds_tokens d .value .value []
  rw [ofTokens?, built]
  rfl

end Document

/-! ## The line of a value -/

/-- Values all of whose numbers are integers. -/
inductive Integral : Json → Prop
  | null : Integral .null
  | bool (value : Bool) : Integral (.bool value)
  | number {value : Number} (integral : value.Integral) : Integral (.number value)
  | string (value : String) : Integral (.string value)
  | array {items : List Json} (each : ∀ item ∈ items, Integral item) : Integral (.array items)
  | object {fields : List (String × Json)} (each : ∀ field ∈ fields, Integral field.2) :
    Integral (.object fields)

/-- The text of a value is cut into the lexemes of its document. -/
def Legible (j : Json) : Prop :=
  CutsInto j.compact (Document.ofValue j).tokens

theorem stops_comma (text : List Char) : Stops (',' :: text) := by
  simp [Stops]

theorem stops_compactItems (items : List Json) : Stops (compactItems items) := by
  cases items with
  | nil => exact stops_nil
  | cons item items =>
    rw [compactItems]
    exact stops_comma _

theorem stops_compactFields (fields : List (String × Json)) : Stops (compactFields fields) := by
  cases fields with
  | nil => exact stops_nil
  | cons field fields =>
    rw [compactFields]
    exact stops_comma _

theorem cutsInto_compactItems {items : List Json} (each : ∀ item ∈ items, Legible item) :
    CutsInto (compactItems items) (Document.tokensOfItems (Document.ofItems items)) := by
  induction items with
  | nil => exact .nil
  | cons item items ih =>
    obtain ⟨first, others⟩ := List.forall_mem_cons.1 each
    rw [compactItems, Document.ofItems, Document.tokensOfItems]
    exact .cons (by decide) (fun _ => rfl) (first.append (stops_compactItems items) (ih others))

theorem cutsInto_compactField {field : String × Json} (value : Legible field.2) :
    CutsInto (compactField field)
      (Document.tokensOfField (some field.1, Document.ofValue field.2)) := by
  obtain ⟨key, j⟩ := field
  have key_text := cutsInto_quote key.toList
  rw [String.ofList_toList] at key_text
  rw [compactField, Document.tokensOfField]
  exact key_text.append (by simp [Stops]) (.cons (by decide) (fun _ => rfl) value)

theorem cutsInto_compactFields {fields : List (String × Json)}
    (each : ∀ field ∈ fields, Legible field.2) :
    CutsInto (compactFields fields) (Document.tokensOfFields (Document.ofFields fields)) := by
  induction fields with
  | nil => exact .nil
  | cons field fields ih =>
    obtain ⟨first, others⟩ := List.forall_mem_cons.1 each
    rw [compactFields, Document.ofFields, Document.tokensOfFields]
    exact .cons (by decide) (fun _ => rfl)
      ((cutsInto_compactField first).append (stops_compactFields fields) (ih others))

theorem legible_array {items : List Json} (each : ∀ item ∈ items, Legible item) :
    Legible (.array items) := by
  have closed : CutsInto [']'] [.closeBracket] := .cons (by decide) (fun _ => rfl) .nil
  cases items with
  | nil => exact .cons (by decide) (fun _ => rfl) closed
  | cons item items =>
    obtain ⟨first, others⟩ := List.forall_mem_cons.1 each
    rw [Legible, compact, Document.ofValue, Document.ofItems, Document.tokens]
    have inside := (first.append (stops_compactItems items) (cutsInto_compactItems others))
    exact .cons (by decide) (fun _ => rfl) (inside.append (by simp [Stops]) closed)

theorem legible_object {fields : List (String × Json)}
    (each : ∀ field ∈ fields, Legible field.2) : Legible (.object fields) := by
  have closed : CutsInto ['\x7d'] [.closeBrace] := .cons (by decide) (fun _ => rfl) .nil
  cases fields with
  | nil => exact .cons (by decide) (fun _ => rfl) closed
  | cons field fields =>
    obtain ⟨first, others⟩ := List.forall_mem_cons.1 each
    rw [Legible, compact, Document.ofValue, Document.ofFields, Document.tokens]
    have inside := (cutsInto_compactField first).append (stops_compactFields fields)
      (cutsInto_compactFields others)
    exact .cons (by decide) (fun _ => rfl) (inside.append (by simp [Stops]) closed)

theorem legible_of_integral {j : Json} (integral : Integral j) : Legible j := by
  induction integral with
  | null => exact .single (by decide) fun _ _ => rfl
  | bool value => exact cutsInto_boolText value
  | number integral => exact cutsInto_number integral
  | string value =>
    have text := cutsInto_quote value.toList
    rw [String.ofList_toList] at text
    exact text
  | array _ each => exact legible_array each
  | object _ each => exact legible_object each

/-- The line of a value is read as the document of the value. -/
theorem read?_line {j : Json} (integral : Integral j) :
    Document.read? j.line = some (.ofValue j) := by
  have cut : lex j.compact = some (Document.ofValue j).tokens :=
    (legible_of_integral integral).lex_eq
  rw [Document.read?, line, String.toList_ofList, cut]
  exact Document.ofTokens?_tokens _

/-! ## Records of two fields -/

theorem Integral.pair {k l : String} {i j : Json} (first : i.Integral) (second : j.Integral) :
    (Json.object [(k, i), (l, j)]).Integral :=
  .object (List.forall_mem_cons.2 ⟨first, List.forall_mem_singleton.2 second⟩)

theorem insertField_of_lt {key first : String} (before : key < first) (value v : Json)
    (rest : List (String × Json)) :
    insertField key value ((first, v) :: rest) = (key, value) :: (first, v) :: rest :=
  if_pos before

theorem insertField_of_gt {key first : String} (behind : ¬key < first) (other : key ≠ first)
    (value v : Json) (rest : List (String × Json)) :
    insertField key value ((first, v) :: rest) = (first, v) :: insertField key value rest := by
  rw [insertField, if_neg behind, if_neg other]

theorem evaluate_pair {k l : String} {i j a b : Json}
    (first : (Document.ofValue i).evaluate = some a)
    (second : (Document.ofValue j).evaluate = some b) :
    (Document.ofValue (.object [(k, i), (l, j)])).evaluate =
      some (.object (insertField l b [(k, a)])) := by
  simp only [Document.ofValue, Document.ofFields, Document.evaluate, Document.evaluateFields, first,
    second]
  rfl

end FormatConformance.Json
