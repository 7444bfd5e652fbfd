import FormatConformance.Proofs.Log.Lines
import FormatConformance.Proofs.Numeral
import FormatConformance.Proofs.Text.Decoding
import FormatConformance.Proofs.Text.Rows

/-!
# A log of many entries

What one entry does to an emitter is that it adds a line (`lines_emit`) and counts the entry if it
had no identifier (`sequence_emit`). So a log has a line for each entry, in order
(`lines_foldl_emit`), and the number in an identifier is the count of entries without one up to and
with the entry that got it, as far as 64 bits count (`getElem?_written`). Two entries without
identifier have different counts, and the text of an identifier determines its number
(`traceId_injective`), however many digits it has; so as long as there are fewer than 2⁶⁴ of them no
two identifiers are the same. A buffer takes the bytes of the lines in any pieces and shows the text
of the log (`Buffer.contents_foldl_write`).
-/

namespace FormatConformance.Log

open Json
open FormatConformance.Numeral (decimal_eq_repr paddedDecimal paddedDecimal_injective)

/-! ## What a line tells -/

/-- A text is an object with just the fields of an entry that have a value, each once. In a value
that is read the fields of every object are sorted. -/
def Tells (text : String) (e : Entry) : Prop :=
  ∃ fields, Json.read? text = some (.object fields) ∧ (fields.map Prod.fst).Nodup ∧
    ∀ name value, (name, value) ∈ fields ↔ ∃ j, (name, some j) ∈ e.fields ∧ value = j.sorted

theorem Entry.Readable.tells_line {e : Entry} (readable : e.Readable) : Tells e.line e := by
  obtain ⟨fields, same, distinct, perm⟩ :=
    exists_sorted_record (names_fields e ▸ distinct_names)
  refine ⟨fields, ?_, distinct, fun name value => ?_⟩
  · rw [read?_line readable, toJson, same]
  · -- A field of the line is a field of the record that has a value, and the other way round.
    rw [perm.mem_iff, mem_written, sortedOptions]
    constructor
    · intro mem
      obtain ⟨⟨key, slot⟩, inside, shown⟩ := List.mem_map.1 mem
      obtain ⟨rfl, found⟩ := Prod.mk.inj shown
      obtain ⟨j, rfl, rfl⟩ := Option.map_eq_some_iff.1 found
      exact ⟨j, inside, rfl⟩
    · rintro ⟨j, inside, rfl⟩
      exact List.mem_map.2 ⟨_, inside, rfl⟩

namespace Emitter

/-! ## Identifiers

Identifiers of one run differ in their number alone, and the number is written in digits, four of
them or more. -/

theorem traceId_eq (runId : String) (number : Nat) :
    traceId runId number =
      runId ++ "::" ++ String.ofList ((toString number).toList.leftpad 4 '0') := by
  rw [traceId, paddedDecimal, decimal_eq_repr]
  rfl

theorem traceId_injective (runId : String) : Function.Injective (traceId runId) := by
  intro m n same
  have digits : paddedDecimal 4 m = paddedDecimal 4 n := by
    have texts := congrArg String.toList same
    simpa [traceId] using texts
  exact paddedDecimal_injective 4 digits

/-! ## One entry after the other

An emitter is a word that counts and a text that grows. The step lemmas say what one entry adds to
either, and the run lemmas follow an entry to its place in the text. -/

/-- How many entries have no identifier. -/
def unnamed (entries : List Entry) : Nat :=
  entries.countP fun e => e.traceId = ""

/-- The entries as they are emitted one after the other. -/
def written (log : Emitter) : List Entry → List Entry
  | [] => []
  | e :: entries => log.named e :: written (log.emit e) entries

theorem unnamed_append (before behind : List Entry) :
    unnamed (before ++ behind) = unnamed before + unnamed behind :=
  List.countP_append ..

theorem runId_emit (log : Emitter) (e : Entry) : (log.emit e).runId = log.runId := by
  unfold emit
  split <;> rfl

theorem sequence_emit (log : Emitter) (e : Entry) :
    (log.emit e).sequence = log.sequence + UInt64.ofNat (unnamed [e]) := by
  unfold emit unnamed
  split
  · next empty => simp [empty, write]
  · next given => simp [given, write]

theorem length_written (entries : List Entry) (log : Emitter) :
    (log.written entries).length = entries.length := by
  induction entries generalizing log with
  | nil => rfl
  | cons e entries ih => rw [written, List.length_cons, List.length_cons, ih]

/-- A log gets a line for each entry. -/
theorem lines_foldl_emit (entries : List Entry) (log : Emitter) :
    (entries.foldl emit log).lines = log.lines ++ (log.written entries).map Entry.line := by
  induction entries generalizing log with
  | nil => exact (List.append_nil _).symm
  | cons e entries ih =>
    rw [List.foldl_cons, ih, lines_emit, written, List.map_cons, List.append_assoc,
      List.singleton_append]

/-- Each entry is written under its own identifier, or else under the next number. -/
theorem getElem?_written (entries : List Entry) (log : Emitter) (i : Nat) :
    (log.written entries)[i]? = entries[i]?.map fun e =>
      if e.traceId = "" then
        { e with
          traceId := traceId log.runId
            (log.sequence + UInt64.ofNat (unnamed (entries.take (i + 1)))).toNat }
      else e := by
  induction entries generalizing log i with
  | nil => rfl
  | cons e entries ih =>
    cases i with
    | zero =>
      rw [written, List.getElem?_cons_zero, List.getElem?_cons_zero, Option.map_some, named]
      split
      · next empty => simp [unnamed, empty]
      · rfl
    -- The entries are counted from the one at hand, so the counter starts behind the first.
    | succ i =>
      have count : unnamed (e :: entries.take (i + 1)) =
          unnamed [e] + unnamed (entries.take (i + 1)) :=
        unnamed_append [e] _
      rw [written, List.getElem?_cons_succ, List.getElem?_cons_succ, List.take_succ_cons, ih,
        runId_emit, sequence_emit, count, UInt64.ofNat_add, UInt64.add_assoc]

/-- An entry without identifier is counted after all entries before it. -/
theorem unnamed_take_lt {entries : List Entry} {i j : Nat} {e : Entry} (before : i < j)
    (found : entries[j]? = some e) (empty : e.traceId = "") :
    unnamed (entries.take (i + 1)) < unnamed (entries.take (j + 1)) := by
  have next : entries.take (j + 1) = entries.take j ++ [e] := by
    rw [List.take_add_one, found]
    rfl
  have part : (entries.take (i + 1)).Sublist (entries.take j) :=
    (List.take_prefix_take_left before).sublist
  have fewer : unnamed (entries.take (i + 1)) ≤ unnamed (entries.take j) :=
    part.countP_le
  -- The entry at the later place has no identifier of its own, so it is counted itself.
  have one : unnamed [e] = 1 := by simp [unnamed, empty]
  rw [next, unnamed_append, one]
  exact Nat.lt_succ_of_le fewer

/-! ## The text of a log -/

theorem toList_text (log : Emitter) :
    log.text.toList = Text.unrows (log.lines.map String.toList) := by
  rw [text, String.toList_join, Text.unrows, List.flatMap_map, List.flatMap_map]
  simp only [String.toList_append]
  rfl

theorem splitOn_text_foldl_emit (runId : String) (entries : List Entry) :
    (entries.foldl emit (start runId)).text.toList.splitOn '\n' =
      ((start runId).written entries).map (fun w => w.line.toList) ++ [[]] := by
  have lines : (entries.foldl emit (start runId)).lines =
      ((start runId).written entries).map Entry.line := lines_foldl_emit entries (start runId)
  rw [toList_text, lines, List.map_map, Text.splitOn_unrows]
  · rfl
  · intro row mem feed
    obtain ⟨w, -, rfl⟩ := List.mem_map.1 mem
    exact absurd (w.printable_line '\n' feed) (by decide)

end Emitter

/-- A buffer takes the bytes of a text in any pieces and shows the text. -/
theorem Buffer.contents_foldl_write {pieces : List Bytes} {text : String}
    (whole : pieces.flatten = Text.bytesOf text) :
    (pieces.foldl (fun buffer piece => (buffer.write piece).2) empty).contents = text := by
  -- What is in the buffer stays there, whatever the pieces cut apart.
  have kept (buffer : Buffer) :
      (pieces.foldl (fun buffer piece => (buffer.write piece).2) buffer).bytes =
        buffer.bytes ++ pieces.flatten := by
    clear whole
    induction pieces generalizing buffer with
    | nil => exact (List.append_nil _).symm
    | cons piece pieces ih =>
      rw [List.foldl_cons, ih, write, List.flatten_cons, List.append_assoc]
  rw [contents, kept, whole, empty, List.nil_append, Text.bytesOf, Text.ofUtf8Lossy_utf8,
    String.ofList_toList]

namespace Emitter

/-- Of any entries a log has one line each, in order, and no other text, also in a buffer that gets
the text in pieces. A line holds no control character. An entry keeps its identifier, or gets one
from the run and the count of such entries, with four digits at least; the counter has 64 bits, and
up to its end no two of these are the same. A line tells the fields of its entry, and is accepted as
the entry where the details come back as they are. -/
theorem one_line_for_each_entry (runId : String) (entries : List Entry) :
    ∃ written : List Entry, written.length = entries.length ∧
      (entries.foldl emit (start runId)).text.toList.splitOn '\n' =
        written.map (fun w => w.line.toList) ++ [[]] ∧
      (∀ pieces : List Bytes,
        pieces.flatten = Text.bytesOf (entries.foldl emit (start runId)).text →
        (pieces.foldl (fun buffer piece => (buffer.write piece).2) Buffer.empty).contents =
          (entries.foldl emit (start runId)).text) ∧
      (∀ w ∈ written, ∀ c ∈ w.line.toList, 0x20 ≤ c.toNat) ∧
      (∀ i (e : Entry), entries[i]? = some e →
        (e.traceId ≠ "" → written[i]? = some e) ∧
        (e.traceId = "" → written[i]? = some { e with
          traceId := traceId runId (unnamed (entries.take (i + 1)) % UInt64.size) })) ∧
      (∀ number, traceId runId number =
        runId ++ "::" ++ String.ofList ((toString number).toList.leftpad 4 '0')) ∧
      (∀ i j : Nat, i < j → entries[i]?.map Entry.traceId = some "" →
        entries[j]?.map Entry.traceId = some "" →
        unnamed (entries.take (j + 1)) < UInt64.size →
        written[i]?.map Entry.traceId ≠ written[j]?.map Entry.traceId) ∧
      ∀ w ∈ written,
        (w.Readable → Tells w.line w) ∧ (w.Sound → ∀ n, validate w.line n = .ok w) := by
  -- The counter is a word, so the number of an entry is known up to the size of a word.
  have at_place (i : Nat) {e : Entry} (found : entries[i]? = some e) (empty : e.traceId = "") :
      ((start runId).written entries)[i]? = some { e with
        traceId := traceId runId (unnamed (entries.take (i + 1)) % UInt64.size) } := by
    rw [getElem?_written, found, Option.map_some, if_pos empty, start, UInt64.zero_add,
      UInt64.toNat_ofNat']
  refine ⟨(start runId).written entries, length_written entries _,
    splitOn_text_foldl_emit runId entries, fun _ => Buffer.contents_foldl_write,
    fun w _ => w.printable_line, fun i e found => ⟨fun given => ?_, at_place i found⟩,
    traceId_eq runId, fun i j before first second within => ?_,
    fun w _ => ⟨Entry.Readable.tells_line, w.validate_line⟩⟩
  · rw [getElem?_written, found, Option.map_some, if_neg given]
  · obtain ⟨d, found, empty⟩ := Option.map_eq_some_iff.1 first
    obtain ⟨e, found', empty'⟩ := Option.map_eq_some_iff.1 second
    have fewer := unnamed_take_lt before found' empty'
    -- Below the size of a word both numbers are what was counted, and the later one is greater.
    rw [at_place i found empty, at_place j found' empty', Option.map_some, Option.map_some,
      Nat.mod_eq_of_lt within, Nat.mod_eq_of_lt (fewer.trans within)]
    intro same
    exact fewer.ne (traceId_injective runId (Option.some.inj same))

/-- An entry with details inside of details, one with an identifier of its own, and one with a line
feed and a quote. -/
def mixed : List Entry :=
  let entry := Entry.new Instant.epoch .info "event"
  [{ entry with details := some (.object [("a", .array [.object [("b", .null)], .nat 1])]) },
    { entry with traceId := "own" }, { entry with event := "\n\"" }]

theorem one_line_for_each_entry_mixed :
    ∃ written : List Entry,
      (mixed.foldl emit (start "run")).text.toList.splitOn '\n' =
        written.map (fun w => w.line.toList) ++ [[]] ∧
      written.map Entry.traceId = ["run::0001", "own", "run::0002"] ∧
      written[0]?.map Entry.traceId ≠ written[2]?.map Entry.traceId ∧
      ∀ w ∈ written, Tells w.line w ∧ validate w.line 1 = .ok w := by
  obtain ⟨written, length, text, -, -, each, -, distinct, told⟩ :=
    one_line_for_each_entry "run" mixed
  have apart := distinct 0 2 (by decide) rfl rfl (by decide)
  obtain ⟨first, second, third, rfl⟩ := List.length_eq_three.1 length
  have first_eq := Option.some.inj ((each 0 _ rfl).2 rfl)
  have second_eq := Option.some.inj ((each 1 _ rfl).1 (by decide))
  have third_eq := Option.some.inj ((each 2 _ rfl).2 rfl)
  have one : traceId "run" 1 = "run::0001" := by
    rw [traceId_eq]
    decide +kernel
  have two : traceId "run" 2 = "run::0002" := by
    rw [traceId_eq]
    decide +kernel
  have nested : Durable (.object [("a", .array [.object [("b", .null)], .nat 1])]) := by
    refine ⟨.object ?_, rfl, by decide, nofun⟩
    rintro _ (_ | ⟨_, ⟨⟩⟩)
    refine .array ?_
    rintro _ (_ | ⟨_, _ | ⟨_, ⟨⟩⟩⟩)
    · exact .object (by rintro _ (_ | ⟨_, ⟨⟩⟩); exact .null)
    · exact integral_nat (by decide)
  -- Only the first entry has details, and those are nested but in order.
  have sound : ∀ w ∈ [first, second, third], w.Sound := by
    simp only [List.forall_mem_cons, List.not_mem_nil, false_imp_iff, implies_true, and_true]
    rw [first_eq, second_eq, third_eq]
    exact ⟨by rintro _ ⟨⟩; exact nested, nofun, nofun⟩
  refine ⟨_, text, ?_, apart, fun w mem => ⟨(told w mem).1 (sound w mem).readable,
    (told w mem).2 (sound w mem) 1⟩⟩
  rw [first_eq, second_eq, third_eq]
  exact congrArg₂ (fun a b => [a, "own", b]) one two

end Emitter

end FormatConformance.Log
