import FormatConformance.Log.Entry

/-!
# Writing a log

An emitter writes one line per entry. An entry without trace identifier gets one from the name of
the run and a number that counts such entries from one; the number has four digits at least. The
lines may go to a buffer in memory, which takes bytes in any pieces.
-/

namespace FormatConformance.Log

/-- A log in the making. -/
structure Emitter where
  runId : String
  /-- How many identifiers have been given out, as far as 64 bits count. -/
  sequence : UInt64
  /-- The lines so far, the last one first. -/
  newestFirst : List String
  deriving DecidableEq, Repr

namespace Emitter

/-- An empty log. -/
def start (runId : String) : Emitter :=
  ⟨runId, 0, []⟩

/-- The identifier with a number. -/
def traceId (runId : String) (number : Nat) : String :=
  runId ++ "::" ++ String.ofList (Numeral.paddedDecimal 4 number)

/-- Writes a line. -/
def write (log : Emitter) (line : String) : Emitter :=
  { log with newestFirst := line :: log.newestFirst }

/-- Writes an entry. -/
def emit (log : Emitter) (entry : Entry) : Emitter :=
  if entry.traceId = "" then
    let number := log.sequence + 1
    { log with sequence := number }.write
      { entry with traceId := traceId log.runId number.toNat }.line
  else log.write entry.line

/-- The lines in the order in which they were written. -/
def lines (log : Emitter) : List String :=
  log.newestFirst.reverse

/-- The text of the log: every line with a line break behind it. -/
def text (log : Emitter) : String :=
  String.join (log.lines.map (· ++ "\n"))

end Emitter

/-- Bytes written so far, which can be looked at as text at any time. -/
structure Buffer where
  bytes : Bytes
  deriving DecidableEq, Repr

namespace Buffer

/-- Nothing written yet. -/
def empty : Buffer :=
  ⟨[]⟩

/-- Writes bytes: how many were written, and the buffer after it. -/
def write (buffer : Buffer) (bytes : Bytes) : Nat × Buffer :=
  (bytes.length, ⟨buffer.bytes ++ bytes⟩)

/-- The text of the buffer, U+FFFD standing for bytes that are no text. -/
def contents (buffer : Buffer) : String :=
  String.ofList (Text.ofUtf8Lossy buffer.bytes)

end Buffer

end FormatConformance.Log
