import FormatConformance.Proofs.Json.Lexemes

/-!
# The grammar of JSON

`Spelling` says which texts spell a document, by the grammar alone and without a reader: blanks may
stand around every part, the items of an array and the members of an object are separated by commas,
and a member is a string and a document with a colon between them. The reader accepts just these
texts and gives the document that they spell (`read?_eq_some_iff`).

The machine that assembles a document from lexemes is inverted by an invariant: `Stands` says which
lexemes have been taken when the machine is in a state, so the lexemes of a finished document are
all there were (`tokens_of_ofTokens?`). Given the lexemes, the text is cut up along the document.
-/

namespace FormatConformance.Json.Document

open Token

/-! ## The lexemes that led to a state

An assembly remembers what is open and what was finished last. `Stands` says which lexemes it can
stand behind, so that a document that is assembled is known by its lexemes. -/

namespace Assembly

/-- The lexemes of an open array or object up to the place where its next part may stand. -/
def openedBy : Frame → List Token
  | .items before => .openBracket :: before.reverse.flatMap fun item => item.tokens ++ [.comma]
  | .fields before =>
    .openBrace :: before.reverse.flatMap fun field => tokensOfField field ++ [.comma]
  | .pending before key =>
    .openBrace :: (before.reverse.flatMap fun field => tokensOfField field ++ [.comma]) ++
      [.string key, .colon]

/-- The lexemes of all that is open, the outermost first. -/
def opened : List Frame → List Token
  | [] => []
  | frame :: stack => opened stack ++ openedBy frame

/-- The lexemes with which a state of the machine is reached. -/
inductive Stands : List Token → Assembly → Prop
  | value (stack : List Frame) : Stands (opened stack) ⟨.value, stack⟩
  | firstItem (stack : List Frame) :
    Stands (opened (.items [] :: stack)) ⟨.valueOrClose, .items [] :: stack⟩
  | firstKey (stack : List Frame) :
    Stands (opened (.fields [] :: stack)) ⟨.keyOrClose, .fields [] :: stack⟩
  | key (before : List (Option String × Document)) (stack : List Frame) :
    Stands (opened (.fields before :: stack)) ⟨.key, .fields before :: stack⟩
  | colon (key : Option String) (before : List (Option String × Document)) (stack : List Frame) :
    Stands (opened (.fields before :: stack) ++ [.string key]) ⟨.colon key, .fields before :: stack⟩
  | items (last : Document) (before : List Document) (stack : List Frame) :
    Stands (opened (.items before :: stack) ++ last.tokens)
      ⟨.separator, .items (last :: before) :: stack⟩
  | fields (last : Option String × Document) (before : List (Option String × Document))
    (stack : List Frame) :
    Stands (opened (.fields before :: stack) ++ tokensOfField last)
      ⟨.separator, .fields (last :: before) :: stack⟩
  | nothing (result : Document) : Stands result.tokens ⟨.nothing result, []⟩

end Assembly

theorem tokensOfItems_eq_flatMap (items : List Document) :
    tokensOfItems items = items.flatMap fun item => .comma :: item.tokens := by
  induction items with
  | nil => rfl
  | cons item items ih => rw [tokensOfItems, ih, List.flatMap_cons, List.cons_append]

theorem tokensOfFields_eq_flatMap (fields : List (Option String × Document)) :
    tokensOfFields fields = fields.flatMap fun field => .comma :: tokensOfField field := by
  induction fields with
  | nil => rfl
  | cons field fields ih => rw [tokensOfFields, ih, List.flatMap_cons, List.cons_append]

/-- A comma in front of each later part is a comma behind each earlier one. -/
theorem commas_shift {α : Type} (write : α → List Token) (first : α) (later : List α) (last : α) :
    write first ++ (later ++ [last]).flatMap (fun part => .comma :: write part) =
      (first :: later).flatMap (fun part => write part ++ [.comma]) ++ write last := by
  induction later generalizing first with
  | nil => simp
  | cons next later ih =>
    rw [List.cons_append, List.flatMap_cons, List.flatMap_cons, List.append_assoc, ← ih next]
    simp

theorem tokens_array_concat (items : List Document) (last : Document) :
    (array (items ++ [last])).tokens =
      .openBracket :: (items.flatMap (fun item => item.tokens ++ [.comma]) ++ last.tokens) ++
        [.closeBracket] := by
  cases items with
  | nil => simp [tokens, tokensOfItems]
  | cons item items =>
    rw [List.cons_append, tokens, tokensOfItems_eq_flatMap, commas_shift, List.cons_append]

theorem tokens_object_concat (fields : List (Option String × Document))
    (last : Option String × Document) :
    (object (fields ++ [last])).tokens =
      .openBrace :: (fields.flatMap (fun field => tokensOfField field ++ [.comma]) ++
        tokensOfField last) ++ [.closeBrace] := by
  cases fields with
  | nil => simp [tokens, tokensOfFields]
  | cons field fields =>
    rw [List.cons_append, tokens, tokensOfFields_eq_flatMap, commas_shift, List.cons_append]

namespace Assembly

theorem stands_put {d : Document} {stack : List Frame} {a : Assembly}
    (placed : put d stack = some a) : Stands (opened stack ++ d.tokens) a := by
  cases stack with
  | nil =>
    cases placed
    exact .nothing d
  | cons frame stack =>
    cases frame with
    | items before =>
      cases placed
      exact .items d before stack
    | fields => cases placed
    | pending before key =>
      cases placed
      -- The key and the colon that were open belong to the field now.
      have same : opened (.pending before key :: stack) ++ d.tokens =
          opened (.fields before :: stack) ++ tokensOfField (key, d) := by
        simp [opened, openedBy, tokensOfField]
      rw [same]
      exact .fields (key, d) before stack

theorem stands_beginValue {token : Token} {stack : List Frame} {a : Assembly}
    (begun : beginValue stack token = some a) : Stands (opened stack ++ [token]) a := by
  cases token with
  | null => exact stands_put (d := .null) begun
  | bool value => exact stands_put (d := .bool value) begun
  | number value => exact stands_put (d := .number value) begun
  | string value => exact stands_put (d := .string value) begun
  | openBracket =>
    cases begun
    exact .firstItem stack
  | openBrace =>
    cases begun
    exact .firstKey stack
  | closeBrace => cases begun
  | closeBracket => cases begun
  | colon => cases begun
  | comma => cases begun

theorem stands_closeItems {last : Document} {before : List Document} {stack : List Frame}
    {a : Assembly} (closed : put (.array (last :: before).reverse) stack = some a) :
    Stands (opened (.items before :: stack) ++ last.tokens ++ [.closeBracket]) a := by
  have placed := stands_put closed
  rw [List.reverse_cons, tokens_array_concat] at placed
  simpa [opened, openedBy] using placed

theorem stands_closeFields {last : Option String × Document}
    {before : List (Option String × Document)} {stack : List Frame} {a : Assembly}
    (closed : put (.object (last :: before).reverse) stack = some a) :
    Stands (opened (.fields before :: stack) ++ tokensOfField last ++ [.closeBrace]) a := by
  have placed := stands_put closed
  rw [List.reverse_cons, tokens_object_concat] at placed
  simpa [opened, openedBy] using placed

/-- One lexeme leads from what has been taken to what has been taken with it. -/
theorem stands_step {a b : Assembly} {taken : List Token} {token : Token}
    (stands : Stands taken a) (step_eq : step a token = some b) : Stands (taken ++ [token]) b := by
  cases stands with
  | value stack => exact stands_beginValue step_eq
  | firstItem stack =>
    by_cases closing : token = .closeBracket
    · -- A bracket that closes at once puts an empty array into what is open around it.
      subst closing
      have empty : put (.array []) stack = some b := step_eq
      have placed := stands_put empty
      simpa [opened, openedBy, tokens] using placed
    · rw [step_of_awaitsValue .valueOrClose closing] at step_eq
      exact stands_beginValue step_eq
  -- Wherever a lexeme cannot stand, the step has no result.
  | firstKey stack =>
    cases token with
    | closeBrace =>
      have empty : put (.object []) stack = some b := step_eq
      have placed := stands_put empty
      simpa [opened, openedBy, tokens] using placed
    | string key =>
      cases step_eq
      exact .colon key [] stack
    | _ => cases step_eq
  | key before stack =>
    cases token with
    | string key =>
      cases step_eq
      exact .colon key before stack
    | _ => cases step_eq
  | colon key before stack =>
    cases token with
    | colon =>
      cases step_eq
      have same : opened (.fields before :: stack) ++ [.string key] ++ [.colon] =
          opened (.pending before key :: stack) := by
        simp [opened, openedBy]
      rw [same]
      exact .value _
    | _ => cases step_eq
  -- Behind an item the lexemes are the same, only cut in another place.
  | items last before stack =>
    cases token with
    | comma =>
      cases step_eq
      have same : opened (.items before :: stack) ++ last.tokens ++ [.comma] =
          opened (.items (last :: before) :: stack) := by
        simp [opened, openedBy]
      rw [same]
      exact .value _
    | closeBracket => exact stands_closeItems step_eq
    | _ => cases step_eq
  | fields last before stack =>
    cases token with
    | comma =>
      cases step_eq
      have same : opened (.fields before :: stack) ++ tokensOfField last ++ [.comma] =
          opened (.fields (last :: before) :: stack) := by
        simp [opened, openedBy]
      rw [same]
      exact .key _ _
    | closeBrace => exact stands_closeFields step_eq
    | _ => cases step_eq
  | nothing result => cases step_eq

/-- A run of the machine takes its lexemes. -/
theorem stands_foldlM {a b : Assembly} {taken later : List Token} (stands : Stands taken a)
    (run : later.foldlM step a = some b) : Stands (taken ++ later) b := by
  induction later generalizing a taken with
  | nil =>
    cases run
    rwa [List.append_nil]
  | cons token later ih =>
    obtain ⟨next, stepped, behind⟩ := Option.bind_eq_some_iff.1 run
    rw [List.append_cons]
    exact ih (stands_step stands stepped) behind

end Assembly

/-- What is assembled has the lexemes from which it was assembled. -/
theorem tokens_of_ofTokens? {tokens : List Token} {d : Document}
    (assembled : ofTokens? tokens = some d) : tokens = d.tokens := by
  obtain ⟨⟨expected, stack⟩, run, finished⟩ := Option.bind_eq_some_iff.1 assembled
  have stands : Assembly.Stands tokens ⟨expected, stack⟩ :=
    Assembly.stands_foldlM (.value []) run
  cases stands with
  | nothing result =>
    cases finished
    rfl
  | _ => cases finished

theorem ofTokens?_eq_some_iff {tokens : List Token} {d : Document} :
    ofTokens? tokens = some d ↔ tokens = d.tokens :=
  ⟨tokens_of_ofTokens?, fun same => same ▸ ofTokens?_tokens d⟩

/-! ## Spellings

A spelling is the grammar of the texts of a document: lexemes with blanks between them. Parts that
are repeated, items or fields, are treated alike, by what a part is and how it is written. -/

/-- A document with a text for it. -/
structure Spelled where
  document : Document
  text : List Char

/-- A member of an object with a text for its key and a text for its value. -/
structure Member where
  key : Option String
  keyText : List Char
  value : Spelled

/-- The member in the document. -/
def Member.field (m : Member) : Option String × Document :=
  (m.key, m.value.document)

/-- The text of the member. -/
def Member.text (m : Member) : List Char :=
  m.keyText ++ ':' :: m.value.text

/-- The texts that spell a document. -/
inductive Spelling : Document → List Char → Prop
  | null : Spelling null ['n', 'u', 'l', 'l']
  | bool (value : Bool) : Spelling (bool value) (boolText value)
  | number {n : Numeral} {text : List Char} (written : NumeralText n text) :
    Spelling (number n.number?) text
  | string {value : Option String} {body : List Char} (written : StringText value body) :
    Spelling (string value) ('"' :: (body ++ ['"']))
  | emptyArray {gap : List Char} (blank : Gap gap) : Spelling (array []) ('[' :: (gap ++ [']']))
  | array {first : Spelled} {later : List Spelled}
    (each : ∀ item ∈ first :: later, Spelling item.document item.text) :
    Spelling (array ((first :: later).map Spelled.document))
      ('[' :: (first.text ++ later.flatMap (fun item => ',' :: item.text) ++ [']']))
  | emptyObject {gap : List Char} (blank : Gap gap) :
    Spelling (object []) ('\x7b' :: (gap ++ ['\x7d']))
  | object {first : Member} {later : List Member}
    (keys : ∀ m ∈ first :: later, Spelling (string m.key) m.keyText)
    (values : ∀ m ∈ first :: later, Spelling m.value.document m.value.text) :
    Spelling (object ((first :: later).map Member.field))
      ('\x7b' :: (first.text ++ later.flatMap (fun m => ',' :: m.text) ++ ['\x7d']))
  | padded {d : Document} {before text behind : List Char} (blank : Gap before) :
    Spelling d text → Gap behind → Spelling d (before ++ (text ++ behind))

theorem gap_nil : Gap [] := by
  simp [Gap]

theorem stops_gap {gap : List Char} (blank : Gap gap) : Stops gap := by
  cases gap with
  | nil => exact stops_nil
  | cons c gap =>
    have space := blank c (.head _)
    simp only [isSpace, Bool.or_eq_true, decide_eq_true_eq] at space
    rintro _ ⟨⟩
    rcases space with ((rfl | rfl) | rfl) | rfl <;> decide

theorem cutsInto_gap {gap : List Char} (blank : Gap gap) : CutsInto gap [] := by
  have cuts := CutsInto.nil.behind blank
  rwa [List.append_nil] at cuts

/-- Later parts, each behind a comma, when each part is cut into its lexemes. -/
theorem cutsInto_flatMap_comma {α : Type} {text : α → List Char} {write : α → List Token}
    {parts : List α} (each : ∀ part ∈ parts, CutsInto (text part) (write part)) :
    CutsInto (parts.flatMap fun part => ',' :: text part)
      (parts.flatMap fun part => .comma :: write part) := by
  induction parts with
  | nil => exact .nil
  | cons part parts ih =>
    obtain ⟨first, others⟩ := List.forall_mem_cons.1 each
    -- The next part starts with a comma, which ends any lexeme before it.
    have stops : Stops (parts.flatMap fun part => ',' :: text part) := by
      cases parts <;> simp [Stops]
    rw [List.flatMap_cons, List.flatMap_cons, List.cons_append, List.cons_append]
    exact .cons (by decide) (fun _ => rfl) (first.append stops (ih others))

/-- A first part, later parts each behind a comma, and a bracket behind them all. -/
theorem cutsInto_enclosed {α : Type} {text : α → List Char} {write : α → List Token}
    {first : α} {later : List α} {closing : List Char} {token : Token}
    (each : ∀ part ∈ first :: later, CutsInto (text part) (write part)) (stop : Stops closing)
    (closed : CutsInto closing [token]) :
    CutsInto (text first ++ later.flatMap (fun part => ',' :: text part) ++ closing)
      (write first ++ later.flatMap (fun part => .comma :: write part) ++ [token]) := by
  obtain ⟨head, others⟩ := List.forall_mem_cons.1 each
  have stops : Stops (later.flatMap fun part => ',' :: text part) := by
    cases later <;> simp [Stops]
  exact (head.append stops (cutsInto_flatMap_comma others)).append stop closed

theorem Member.cutsInto {m : Member} (key : CutsInto m.keyText [.string m.key])
    (value : CutsInto m.value.text m.value.document.tokens) :
    CutsInto m.text (tokensOfField m.field) :=
  key.append (by simp [Stops]) (.cons (by decide) (fun _ => rfl) value)

/-- A spelling of a document is cut into the lexemes of the document. -/
theorem Spelling.cutsInto {d : Document} {text : List Char} (spelling : Spelling d text) :
    CutsInto text d.tokens := by
  induction spelling with
  | null => exact Lexeme.null.cutsInto
  | bool value => exact (Lexeme.bool value).cutsInto
  | number written => exact (Lexeme.number written).cutsInto
  | string written => exact (Lexeme.string written).cutsInto
  | emptyArray blank =>
    have closed : CutsInto [']'] [.closeBracket] := Lexeme.closeBracket.cutsInto
    rw [tokens]
    exact .cons (by decide) (fun _ => rfl) (closed.behind blank)
  | emptyObject blank =>
    have closed : CutsInto ['\x7d'] [.closeBrace] := Lexeme.closeBrace.cutsInto
    rw [tokens]
    exact .cons (by decide) (fun _ => rfl) (closed.behind blank)
  | array _ each =>
    have closed : CutsInto [']'] [.closeBracket] := Lexeme.closeBracket.cutsInto
    have inside := cutsInto_enclosed each (by simp [Stops]) closed
    rw [List.map_cons, tokens, tokensOfItems_eq_flatMap, List.flatMap_map]
    exact .cons (by decide) (fun _ => rfl) inside
  | object _ _ keys values =>
    have closed : CutsInto ['\x7d'] [.closeBrace] := Lexeme.closeBrace.cutsInto
    have each (m : Member) (mem : m ∈ _) : CutsInto m.text (tokensOfField m.field) :=
      Member.cutsInto (keys m mem) (values m mem)
    have inside := cutsInto_enclosed each (by simp [Stops]) closed
    rw [List.map_cons, tokens, tokensOfFields_eq_flatMap, List.flatMap_map]
    exact .cons (by decide) (fun _ => rfl) inside
  | padded blank _ behind ih =>
    have padded := (ih.append (stops_gap behind) (cutsInto_gap behind)).behind blank
    rwa [List.append_nil] at padded

/-! ## What the reader accepts -/

theorem Spelling.behind {d : Document} {gap text : List Char} (blank : Gap gap)
    (spelling : Spelling d text) : Spelling d (gap ++ text) := by
  have padded := spelling.padded blank gap_nil
  rwa [List.append_nil] at padded

theorem Spelling.before {d : Document} {gap text : List Char} (spelling : Spelling d text)
    (blank : Gap gap) : Spelling d (text ++ gap) :=
  spelling.padded gap_nil blank

/-- The text spells the document. -/
def Spelled.Correct (s : Spelled) : Prop :=
  Spelling s.document s.text

/-- The texts spell the key and the value. -/
def Member.Correct (m : Member) : Prop :=
  Spelling (string m.key) m.keyText ∧ m.value.Correct

section Parts

variable {α β : Type} (part : β → α) (text : β → List Char) (Correct : β → Prop)

/-- Wherever the lexemes of a part come first, a correct text of the part comes first. -/
def Taken (tokens : List Token) (a : α) : Prop :=
  ∀ whole later, lex whole = some (tokens ++ later) →
    ∃ b rest, part b = a ∧ Correct b ∧ whole = text b ++ rest ∧ lex rest = some later

/-- Blanks behind a correct text leave it correct. -/
def Pads : Prop :=
  ∀ b gap, Correct b → Gap gap → ∃ c, part c = part b ∧ text c = text b ++ gap ∧ Correct c

variable {part text Correct} {write : α → List Token}

/-- Later parts up to the bracket behind them. Blanks in front of a comma or of the bracket belong
to the part before. -/
theorem exists_later (pad : Pads part text Correct) {closing : Token} {mark : List Char}
    (closes : ∀ piece, Lexeme closing piece → piece = mark)
    {parts : List α} (each : ∀ a ∈ parts, Taken part text Correct (write a) a)
    {whole : List Char} {behind : List Token}
    (cut : lex whole = some (parts.flatMap (fun a => .comma :: write a) ++ closing :: behind)) :
    ∃ (gap : List Char) (found : List β) (rest : List Char),
      Gap gap ∧ found.map part = parts ∧ (∀ b ∈ found, Correct b) ∧
      whole = gap ++ (found.flatMap (fun b => ',' :: text b) ++ (mark ++ rest)) ∧
      lex rest = some behind := by
  -- The text is found from the left: a comma, a part, and then the parts behind it.
  induction parts generalizing whole with
  | nil =>
    obtain ⟨gap, piece, rest, blank, lexeme, rfl, later⟩ := exists_of_lex_cons cut
    obtain rfl := closes piece lexeme
    exact ⟨gap, [], rest, blank, rfl, by simp, rfl, later⟩
  | cons a parts ih =>
    obtain ⟨first, others⟩ := List.forall_mem_cons.1 each
    rw [List.flatMap_cons, List.cons_append, List.cons_append, List.append_assoc] at cut
    obtain ⟨gap, _, inside, blank, ⟨⟩, rfl, inside_cut⟩ := exists_of_lex_cons cut
    obtain ⟨b, after, rfl, correct, rfl, after_cut⟩ := first inside _ inside_cut
    obtain ⟨more, found, rest, more_blank, rfl, all_correct, rfl, later⟩ := ih others after_cut
    -- The gap that was found behind the part is counted as its padding.
    obtain ⟨c, same, padded, c_correct⟩ := pad b more correct more_blank
    refine ⟨gap, c :: found, rest, blank, ?_, List.forall_mem_cons.2 ⟨c_correct, all_correct⟩, ?_,
      later⟩
    · rw [List.map_cons, same]
    · rw [List.flatMap_cons, padded]
      simp

/-- A first part, later parts and the bracket behind them. -/
theorem exists_enclosed (pad : Pads part text Correct) {closing : Token} {mark : List Char}
    (closes : ∀ piece, Lexeme closing piece → piece = mark)
    {a : α} {parts : List α} (each : ∀ b ∈ a :: parts, Taken part text Correct (write b) b)
    {whole : List Char} {behind : List Token}
    (cut : lex whole =
      some (write a ++ (parts.flatMap (fun a => .comma :: write a) ++ closing :: behind))) :
    ∃ (first : β) (found : List β) (rest : List Char),
      (first :: found).map part = a :: parts ∧ (∀ b ∈ first :: found, Correct b) ∧
      whole = text first ++ found.flatMap (fun b => ',' :: text b) ++ mark ++ rest ∧
      lex rest = some behind := by
  obtain ⟨head, others⟩ := List.forall_mem_cons.1 each
  obtain ⟨b, after, rfl, correct, rfl, after_cut⟩ := head whole _ cut
  obtain ⟨gap, found, rest, blank, rfl, all_correct, rfl, later⟩ :=
    exists_later pad closes others after_cut
  obtain ⟨c, same, padded, c_correct⟩ := pad b gap correct blank
  refine ⟨c, found, rest, ?_, List.forall_mem_cons.2 ⟨c_correct, all_correct⟩, ?_, later⟩
  · rw [List.map_cons, same]
  · rw [padded]
    simp

end Parts

theorem pads_spelled : Pads Spelled.document Spelled.text Spelled.Correct :=
  fun s gap correct blank => ⟨⟨s.document, s.text ++ gap⟩, rfl, rfl, correct.before blank⟩

theorem pads_member : Pads Member.field Member.text Member.Correct := by
  rintro m gap ⟨key, value⟩ blank
  refine ⟨⟨m.key, m.keyText, m.value.document, m.value.text ++ gap⟩, rfl, ?_, key,
    value.before blank⟩
  simp [Member.text]

/-- Wherever the lexemes of a document come first, a spelling of it comes first. -/
def Found (d : Document) : Prop :=
  Taken Spelled.document Spelled.text Spelled.Correct d.tokens d

theorem Found.exists_spelling {d : Document} (found : Found d) {whole : List Char}
    {later : List Token} (cut : lex whole = some (d.tokens ++ later)) :
    ∃ piece rest, Spelling d piece ∧ whole = piece ++ rest ∧ lex rest = some later := by
  obtain ⟨⟨_, piece⟩, rest, rfl, spelling, split, behind⟩ := found whole later cut
  exact ⟨piece, rest, spelling, split, behind⟩

theorem found_of_spelling {d : Document}
    (spells : ∀ whole later, lex whole = some (d.tokens ++ later) →
      ∃ piece rest, Spelling d piece ∧ whole = piece ++ rest ∧ lex rest = some later) :
    Found d := by
  intro whole later cut
  obtain ⟨piece, rest, spelling, split, behind⟩ := spells whole later cut
  exact ⟨⟨d, piece⟩, rest, rfl, spelling, split, behind⟩

/-- A document of one lexeme. -/
theorem found_of_lexeme {d : Document} {token : Token} (single : d.tokens = [token])
    (spells : ∀ piece, Lexeme token piece → Spelling d piece) : Found d := by
  refine found_of_spelling fun whole later cut => ?_
  rw [single] at cut
  obtain ⟨gap, piece, rest, blank, lexeme, rfl, behind⟩ := exists_of_lex_cons cut
  exact ⟨gap ++ piece, rest, (spells piece lexeme).behind blank, by simp, behind⟩

theorem found_member {field : Option String × Document} (value : Found field.2) :
    Taken Member.field Member.text Member.Correct (tokensOfField field) field := by
  intro whole later cut
  obtain ⟨key, d⟩ := field
  rw [tokensOfField] at cut
  obtain ⟨gap, quoted, after_key, blank, lexeme, rfl, keyed⟩ := exists_of_lex_cons cut
  obtain ⟨space, _, inside, spaces, ⟨⟩, rfl, named⟩ := exists_of_lex_cons keyed
  obtain ⟨piece, rest, spelling, rfl, behind⟩ := value.exists_spelling named
  -- A lexeme for a string is a spelling of it once the blanks around it are added.
  have key_text : Spelling (string key) (gap ++ (quoted ++ space)) := by
    cases lexeme with
    | string written => exact .padded blank (.string written) spaces
  refine ⟨⟨key, _, ⟨d, piece⟩⟩, rest, rfl, ⟨key_text, spelling⟩, ?_, behind⟩
  simp [Member.text]

theorem found_array {items : List Document} (each : ∀ item ∈ items, Found item) :
    Found (array items) := by
  refine found_of_spelling fun whole later cut => ?_
  have closes (piece : List Char) (lexeme : Lexeme .closeBracket piece) : piece = [']'] := by
    cases lexeme
    rfl
  cases items with
  | nil =>
    rw [tokens] at cut
    obtain ⟨gap, _, inside, blank, ⟨⟩, rfl, opened⟩ := exists_of_lex_cons cut
    obtain ⟨space, _, rest, spaces, ⟨⟩, rfl, behind⟩ := exists_of_lex_cons opened
    refine ⟨_, rest, (Spelling.emptyArray spaces).behind blank, ?_, behind⟩
    simp
  | cons item items =>
    rw [tokens, tokensOfItems_eq_flatMap, List.cons_append, List.append_assoc, List.append_assoc]
      at cut
    obtain ⟨gap, _, inside, blank, ⟨⟩, rfl, opened⟩ := exists_of_lex_cons cut
    -- The induction hypotheses are on the items; only the brackets and the commas are left.
    obtain ⟨first, found, rest, same, correct, rfl, behind⟩ :=
      exists_enclosed pads_spelled closes each opened
    have spelling := (Spelling.array correct).behind blank
    rw [same] at spelling
    refine ⟨_, rest, spelling, ?_, behind⟩
    simp

theorem found_object {fields : List (Option String × Document)}
    (each : ∀ field ∈ fields, Found field.2) : Found (object fields) := by
  refine found_of_spelling fun whole later cut => ?_
  have closes (piece : List Char) (lexeme : Lexeme .closeBrace piece) : piece = ['\x7d'] := by
    cases lexeme
    rfl
  cases fields with
  | nil =>
    rw [tokens] at cut
    obtain ⟨gap, _, inside, blank, ⟨⟩, rfl, opened⟩ := exists_of_lex_cons cut
    obtain ⟨space, _, rest, spaces, ⟨⟩, rfl, behind⟩ := exists_of_lex_cons opened
    refine ⟨_, rest, (Spelling.emptyObject spaces).behind blank, ?_, behind⟩
    simp
  | cons field fields =>
    rw [tokens, tokensOfFields_eq_flatMap, List.cons_append, List.append_assoc, List.append_assoc]
      at cut
    obtain ⟨gap, _, inside, blank, ⟨⟩, rfl, opened⟩ := exists_of_lex_cons cut
    obtain ⟨first, found, rest, same, correct, rfl, behind⟩ :=
      exists_enclosed pads_member closes (fun field mem => found_member (each field mem)) opened
    have spelling := (Spelling.object (fun m mem => (correct m mem).1)
      fun m mem => (correct m mem).2).behind blank
    rw [same] at spelling
    refine ⟨_, rest, spelling, ?_, behind⟩
    simp

theorem found (d : Document) : Found d := by
  induction d using Document.induction with
  | null => exact found_of_lexeme rfl fun piece lexeme => by cases lexeme; exact .null
  | bool value => exact found_of_lexeme rfl fun piece lexeme => by cases lexeme; exact .bool value
  | number value =>
    refine found_of_lexeme rfl fun piece lexeme => ?_
    cases lexeme with
    | number written => exact .number written
  | string value =>
    refine found_of_lexeme rfl fun piece lexeme => ?_
    cases lexeme with
    | string written => exact .string written
  | array items each => exact found_array each
  | object fields each => exact found_object each

/-- The reader accepts the spellings of a document and gives the document. -/
theorem read?_eq_some_iff {text : String} {d : Document} :
    read? text = some d ↔ Spelling d text.toList := by
  constructor
  · intro read
    obtain ⟨tokens, cut, assembled⟩ := Option.bind_eq_some_iff.1 read
    obtain rfl := ofTokens?_eq_some_iff.1 assembled
    -- Behind the whole document there are no lexemes, so blanks are all that is left.
    rw [← List.append_nil d.tokens] at cut
    obtain ⟨piece, rest, spelling, split, behind⟩ := (found d).exists_spelling cut
    rw [split]
    exact spelling.before (gap_of_lex_nil behind)
  · intro spelling
    rw [read?, spelling.cutsInto.lex_eq]
    exact ofTokens?_eq_some_iff.2 rfl

/-- What the printer writes for a value spells its document. -/
theorem spelling_compact {j : Json} (integral : j.Integral) : Spelling (ofValue j) j.compact := by
  have read := read?_line integral
  rwa [read?_eq_some_iff, line, String.toList_ofList] at read

/-- A text spells one document at most. -/
theorem Spelling.unique {c d : Document} {text : List Char} (first : Spelling c text)
    (second : Spelling d text) : c = d := by
  rw [← String.toList_ofList (l := text), ← read?_eq_some_iff] at first second
  rw [first] at second
  exact Option.some.inj second

end FormatConformance.Json.Document
