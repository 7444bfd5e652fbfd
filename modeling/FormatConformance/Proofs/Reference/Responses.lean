import FormatConformance.Proofs.Json.Fields
import FormatConformance.Proofs.Json.Grammar
import FormatConformance.Proofs.Text.Trimming
import FormatConformance.Reference.Worker

/-!
# The answer in a line

`Denotes` says which response a line is, by the grammar of JSON and the rules for records and
without a reader: any spelling of an object with its fields in any order, or of an array of its
fields. A line denotes one response at most, and the answer in a line is settled by the response
that it denotes (`decode_exact`): the rendered text or the rejection, a fault that names the missing
field, or the fault that the line is no response.
-/

namespace FormatConformance.Reference

open FormatConformance.Json (Document)
open FormatConformance.Json.Schema (AbsentOr IsWord Slots)

theorem FailureKind.mem_all (kind : FailureKind) : kind ∈ all := by
  cases kind <;> decide

theorem FailureKind.name_injective : Function.Injective name := by
  intro a b same
  cases a <;> cases b <;> first | rfl | exact absurd same (by decide)

namespace Response

/-- A string in a document. -/
def IsText (d : Document) (value : String) : Prop :=
  d = .string (some value)

/-- The responses as which a document is read. -/
inductive Reads (d : Document) : Response → Prop
  | mk {ok : Bool} {value message : Option String} {kind : Option FailureKind}
    {valueSlot kindSlot messageSlot : Option Document}
    (slots : Slots ["ok", "value", "kind", "message"] 1 d
      [some (.bool ok), valueSlot, kindSlot, messageSlot])
    (value_is : AbsentOr IsText valueSlot value)
    (kind_is : AbsentOr (IsWord FailureKind.name) kindSlot kind)
    (message_is : AbsentOr IsText messageSlot message) :
    Reads d ⟨ok, value, kind, message⟩

/-- The line spells a document that is read as the response. -/
def Denotes (line : String) (r : Response) : Prop :=
  ∃ d, Document.Spelling d line.toList ∧ Reads d r

/-! ## Reading by the rules -/

theorem absentOr?_text {slot : Option Document} {value : Option String} :
    Json.Schema.absentOr? Json.Schema.text? slot = some value ↔ AbsentOr IsText slot value :=
  Json.Schema.absentOr?_eq_some_iff (fun _ _ => Json.Schema.text?_eq_some_iff) rfl

theorem absentOr?_kind {slot : Option Document} {kind : Option FailureKind} :
    Json.Schema.absentOr? (Json.Schema.word? FailureKind.all FailureKind.name) slot = some kind ↔
      AbsentOr (IsWord FailureKind.name) slot kind :=
  Json.Schema.absentOr?_eq_some_iff
    (fun _ _ => Json.Schema.word?_eq_some_iff FailureKind.mem_all FailureKind.name_injective) rfl

theorem ofDocument?_eq_some_iff {d : Document} {r : Response} :
    ofDocument? d = some r ↔ Reads d r := by
  constructor
  · intro read
    obtain ⟨slots, found, built⟩ := Option.bind_eq_some_iff.1 read
    split at built
    · simp only [Option.bind_eq_bind, Option.bind_eq_some_iff, absentOr?_text, absentOr?_kind,
        Json.Schema.required?_eq_some_iff, Json.Schema.bool?_eq_some_iff, Option.pure_def,
        Option.some.injEq] at built
      obtain ⟨ok, ⟨_, rfl, rfl⟩, value, value_is, kind, kind_is, message, message_is, rfl⟩ := built
      exact .mk (Json.Schema.slots?_eq_some_iff.1 found) value_is kind_is message_is
    · cases built
  · rintro ⟨slots, value_is, kind_is, message_is⟩
    rw [ofDocument?, Json.Schema.slots?_eq_some_iff.2 slots]
    simp only [Option.bind_eq_bind, Option.bind_some, absentOr?_text.2 value_is,
      absentOr?_kind.2 kind_is, absentOr?_text.2 message_is]
    rfl

theorem denotes_iff {line : String} {r : Response} :
    Denotes line r ↔ (Document.read? line).bind ofDocument? = some r := by
  simp only [Denotes, Option.bind_eq_some_iff, ofDocument?_eq_some_iff,
    Document.read?_eq_some_iff]

theorem Denotes.unique {line : String} {r s : Response} (first : Denotes line r)
    (second : Denotes line s) : r = s :=
  Option.some.inj ((denotes_iff.1 first).symm.trans (denotes_iff.1 second))

/-! ## The answer -/

theorem decode_of_denotes {line : String} {r : Response} (denotes : Denotes line r) :
    decode line = r.answer.mapError fun fault => .protocol (shown line) fault.message := by
  rw [decode, read, denotes_iff.1 denotes]

theorem decode_of_not_denotes {line : String} (nothing : ∀ r, ¬Denotes line r) :
    decode line = .error (.protocol (shown line) Fault.malformed.message) := by
  have unread : (Document.read? line).bind ofDocument? = none :=
    Option.eq_none_iff_forall_ne_some.2 fun r read => nothing r (denotes_iff.2 read)
  rw [decode, read, unread]
  rfl

theorem answer_success {r : Response} {value : String} (ok : r.ok = true)
    (present : r.value = some value) : r.answer = .ok (.success (Text.bytesOf value)) := by
  rw [answer, if_pos ok, present]

theorem answer_noValue {r : Response} (ok : r.ok = true) (absent : r.value = none) :
    r.answer = .error .noValue := by
  rw [answer, if_pos ok, absent]

theorem answer_failure {r : Response} {kind : FailureKind} (failed : r.ok = false)
    (present : r.kind = some kind) : r.answer = .ok (.failure kind (r.message.getD "")) := by
  rw [answer, failed, if_neg Bool.false_ne_true, present]

theorem answer_noKind {r : Response} (failed : r.ok = false) (absent : r.kind = none) :
    r.answer = .error .noKind := by
  rw [answer, failed, if_neg Bool.false_ne_true, absent]

/-- What comes of a line. -/
inductive Settled (line : String) : Except ReferenceFault Answer → Prop
  | success {r : Response} {value : String} (denotes : Denotes line r) (ok : r.ok = true)
    (present : r.value = some value) : Settled line (.ok (.success (Text.bytesOf value)))
  | failure {r : Response} {kind : FailureKind} (denotes : Denotes line r) (failed : r.ok = false)
    (present : r.kind = some kind) : Settled line (.ok (.failure kind (r.message.getD "")))
  | noValue {r : Response} (denotes : Denotes line r) (ok : r.ok = true) (absent : r.value = none) :
    Settled line (.error (.protocol (shown line) "success without value"))
  | noKind {r : Response} (denotes : Denotes line r) (failed : r.ok = false)
    (absent : r.kind = none) :
    Settled line (.error (.protocol (shown line) "failure without kind"))
  | malformed (nothing : ∀ r, ¬Denotes line r) :
    Settled line (.error (.protocol (shown line) "not a response"))

theorem settled_decode (line : String) : Settled line (decode line) := by
  by_cases some_response : ∃ r, Denotes line r
  · obtain ⟨r, denotes⟩ := some_response
    rw [decode_of_denotes denotes]
    -- Two flags and two fields that may be absent: four answers, and a line that is none.
    cases ok : r.ok with
    | true =>
      cases value : r.value with
      | some value =>
        rw [answer_success ok value]
        exact .success denotes ok value
      | none =>
        rw [answer_noValue ok value]
        exact .noValue denotes ok value
    | false =>
      cases kind : r.kind with
      | some kind =>
        rw [answer_failure ok kind]
        exact .failure denotes ok kind
      | none =>
        rw [answer_noKind ok kind]
        exact .noKind denotes ok kind
  · have nothing : ∀ r, ¬Denotes line r := not_exists.1 some_response
    rw [decode_of_not_denotes nothing]
    exact .malformed nothing

theorem settled_of_decode {line : String} {result : Except ReferenceFault Answer}
    (decoded : decode line = result) : Settled line result :=
  decoded ▸ settled_decode line

theorem decode_cases (line : String) :
    (∃ payload, decode line = .ok (.success payload)) ∨
      (∃ kind reason, decode line = .ok (.failure kind reason)) ∨
      ∃ reason, decode line = .error (.protocol (shown line) reason) := by
  have settled := settled_decode line
  generalize decode line = result at settled
  cases settled with
  | success => exact .inl ⟨_, rfl⟩
  | failure => exact .inr (.inl ⟨_, _, rfl⟩)
  | noValue => exact .inr (.inr ⟨_, rfl⟩)
  | noKind => exact .inr (.inr ⟨_, rfl⟩)
  | malformed => exact .inr (.inr ⟨_, rfl⟩)

theorem decode_eq_success_iff {line : String} {payload : Bytes} :
    decode line = .ok (.success payload) ↔
      ∃ r value, Denotes line r ∧ r.ok = true ∧ r.value = some value ∧
        payload = Text.bytesOf value := by
  constructor
  · intro decoded
    cases settled_of_decode decoded with
    | success denotes ok present => exact ⟨_, _, denotes, ok, present, rfl⟩
  · rintro ⟨r, value, denotes, ok, present, rfl⟩
    rw [decode_of_denotes denotes, answer_success ok present]
    rfl

theorem decode_eq_failure_iff {line : String} {kind : FailureKind} {reason : String} :
    decode line = .ok (.failure kind reason) ↔
      ∃ r, Denotes line r ∧ r.ok = false ∧ r.kind = some kind ∧ reason = r.message.getD "" := by
  constructor
  · intro decoded
    cases settled_of_decode decoded with
    | failure denotes failed present => exact ⟨_, denotes, failed, present, rfl⟩
  · rintro ⟨r, denotes, failed, present, rfl⟩
    rw [decode_of_denotes denotes, answer_failure failed present]
    rfl

theorem decode_eq_noValue_iff {line : String} :
    decode line = .error (.protocol (shown line) "success without value") ↔
      ∃ r, Denotes line r ∧ r.ok = true ∧ r.value = none := by
  constructor
  · intro decoded
    have settled := settled_of_decode decoded
    -- The reason is generalised, so that the other two cases are told apart by their words.
    generalize missing : "success without value" = reason at settled
    cases settled with
    | noValue denotes ok absent => exact ⟨_, denotes, ok, absent⟩
    | noKind => exact absurd missing (by decide)
    | malformed => exact absurd missing (by decide)
  · rintro ⟨r, denotes, ok, absent⟩
    rw [decode_of_denotes denotes, answer_noValue ok absent]
    rfl

theorem decode_eq_noKind_iff {line : String} :
    decode line = .error (.protocol (shown line) "failure without kind") ↔
      ∃ r, Denotes line r ∧ r.ok = false ∧ r.kind = none := by
  constructor
  · intro decoded
    have settled := settled_of_decode decoded
    generalize missing : "failure without kind" = reason at settled
    cases settled with
    | noKind denotes failed absent => exact ⟨_, denotes, failed, absent⟩
    | noValue => exact absurd missing (by decide)
    | malformed => exact absurd missing (by decide)
  · rintro ⟨r, denotes, failed, absent⟩
    rw [decode_of_denotes denotes, answer_noKind failed absent]
    rfl

/-! ## Objects with the fields of an answer

An object may have its fields in any order and fields besides that no answer has. What it is read as
depends on the fields of an answer alone. -/

/-- The fields of a response to a template that was rendered. -/
def successFields (value : String) : List (Option String × Document) :=
  [(some "ok", .bool true), (some "value", .string (some value))]

/-- The fields of a response to a template that was rejected. -/
def failureFields (kind : FailureKind) (message : String) : List (Option String × Document) :=
  [(some "ok", .bool false), (some "kind", .string (some kind.name)),
    (some "message", .string (some message))]

theorem reads_success {value : String} {fields : List (Option String × Document)}
    (same : fields.Perm (successFields value)) : Reads (.object fields) (success value) := by
  have slots : Slots ["ok", "value", "kind", "message"] 1 (.object (successFields value))
      [some (.bool true), some (.string (some value)), none, none] := by
    refine .object (by simp [successFields]) ?_
    simp [successFields, Json.Schema.valuesOf]
  exact .mk (slots.perm same) (.present rfl) .absent .absent

theorem reads_failure {kind : FailureKind} {message : String}
    {fields : List (Option String × Document)} (same : fields.Perm (failureFields kind message)) :
    Reads (.object fields) (failure kind message) := by
  have slots : Slots ["ok", "value", "kind", "message"] 1 (.object (failureFields kind message))
      [some (.bool false), none, some (.string (some kind.name)),
        some (.string (some message))] := by
    refine .object (by simp [failureFields]) ?_
    simp [failureFields, Json.Schema.valuesOf]
  exact .mk (slots.perm same) .absent (.present (.inl rfl)) (.present rfl)

/-! ## Every line -/

/-- The answer in a line. A line is rendered bytes just when it denotes a response with a value that
says so, and a rejection just when it denotes one with a kind that says so, whatever its other
fields are; a missing message is the empty one. Every other line is a fault that shows the line
without the white space at its end, and the fault names a missing field just when the line denotes a
response that lacks it. So the answer in an object with the fields of a rendered or of a rejected
template, spelled in any way and in any order, is that text or that rejection. -/
theorem decode_exact (line : String) :
    (∀ payload, decode line = .ok (.success payload) ↔
      ∃ r value, Denotes line r ∧ r.ok = true ∧ r.value = some value ∧
        payload = Text.bytesOf value) ∧
    (∀ kind reason, decode line = .ok (.failure kind reason) ↔
      ∃ r, Denotes line r ∧ r.ok = false ∧ r.kind = some kind ∧ reason = r.message.getD "") ∧
    ((∃ payload, decode line = .ok (.success payload)) ∨
      (∃ kind reason, decode line = .ok (.failure kind reason)) ∨
      ∃ reason, decode line = .error (.protocol (shown line) reason)) ∧
    (decode line = .error (.protocol (shown line) "success without value") ↔
      ∃ r, Denotes line r ∧ r.ok = true ∧ r.value = none) ∧
    (decode line = .error (.protocol (shown line) "failure without kind") ↔
      ∃ r, Denotes line r ∧ r.ok = false ∧ r.kind = none) ∧
    (∃ tail, line.toList = (shown line).toList ++ tail ∧ (∀ c ∈ tail, Text.isBlank c) ∧
      ∀ c ∈ (shown line).toList.getLast?, Text.isBlank c = false) ∧
    (∀ value fields, fields.Perm (successFields value) →
      Document.Spelling (.object fields) line.toList →
        decode line = .ok (.success (Text.bytesOf value))) ∧
    ∀ kind message fields, fields.Perm (failureFields kind message) →
      Document.Spelling (.object fields) line.toList →
        decode line = .ok (.failure kind message) := by
  refine ⟨fun _ => decode_eq_success_iff, fun _ _ => decode_eq_failure_iff, decode_cases line,
    decode_eq_noValue_iff, decode_eq_noKind_iff, ?_, fun value fields same spelling => ?_,
    fun kind message fields same spelling => ?_⟩
  · rw [shown, String.toList_ofList]
    exact Text.exists_trimEnd line.toList
  · exact decode_eq_success_iff.2 ⟨_, value, ⟨_, spelling, reads_success same⟩, rfl, rfl, rfl⟩
  · exact decode_eq_failure_iff.2 ⟨_, ⟨_, spelling, reads_failure same⟩, rfl, rfl, rfl⟩

/-- A spelling with blanks, with the fields the other way round, and with a letter and a pair of
surrogates in hexadecimal. -/
theorem spelling_escaped :
    Document.Spelling (.object [(some "value", .string (some "é😀")), (some "ok", .bool true)])
      "\x7b\"value\":\"\\u00e9\\ud83d\\ude00\", \"ok\" :true\x7d\n".toList := by
  have code (a b c d : Char) (unit : Nat) (value : Json.Token.codeUnit? a b c d = some unit) :
      Json.Token.PartText (.code unit) ['\\', 'u', a, b, c, d] :=
    .code (Json.Token.codeUnit?_eq_some_iff.1 value)
  have value_key : Document.Spelling (.string (some "value")) "\"value\"".toList :=
    Document.spelling_compact (.string "value")
  have ok_key : Document.Spelling (.string (some "ok")) "\"ok\"".toList :=
    Document.spelling_compact (.string "ok")
  have text : Document.Spelling (.string (some "é😀")) "\"\\u00e9\\ud83d\\ude00\"".toList :=
    .string (@Json.Token.StringText.known _ _ "é😀".toList
      (.cons (code '0' '0' 'e' '9' 0xe9 rfl) (.cons (code 'd' '8' '3' 'd' 0xd83d rfl)
        (.cons (code 'd' 'e' '0' '0' 0xde00 rfl) .nil)))
      (.basic 'é' (by decide) (.pair '😀' (by decide) .nil)))
  have space : Json.Token.Gap [' '] := by simp [Json.Token.Gap, Json.Token.isSpace]
  have newline : Json.Token.Gap ['\n'] := by simp [Json.Token.Gap, Json.Token.isSpace]
  have object := @Document.Spelling.object ⟨some "value", _, ⟨_, _⟩⟩ [⟨some "ok", _, ⟨_, _⟩⟩]
    (by simpa using ⟨value_key, (ok_key.before space).behind space⟩)
    (by simpa using ⟨text, .bool true⟩)
  exact object.before newline

theorem decode_exact_escaped :
    decode "\x7b\"value\":\"\\u00e9\\ud83d\\ude00\", \"ok\" :true\x7d\n" =
      .ok (.success (Text.bytesOf "é😀")) := by
  obtain ⟨-, -, -, -, -, -, success, -⟩ := decode_exact
    "\x7b\"value\":\"\\u00e9\\ud83d\\ude00\", \"ok\" :true\x7d\n"
  exact success "é😀" _ (.swap _ _ _) spelling_escaped

end Response

end FormatConformance.Reference
