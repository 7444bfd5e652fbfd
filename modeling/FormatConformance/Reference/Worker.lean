import FormatConformance.Fault
import FormatConformance.Reference.Request
import FormatConformance.Reference.Response

/-!
# The worker

The reference runs as a worker that is sent one request at a time and answers on a pipe. What the
worker wrote and nobody has read stays in the pipe; each exchange takes exactly one line from it,
whatever comes of that line.
-/

namespace FormatConformance.Reference

/-- The answer in a line. -/
def Response.decode (line : String) : Except ReferenceFault Answer :=
  (read line).mapError fun fault => .protocol (shown line) fault.message

/-- What a worker does on a request: the bytes it writes, and whether it ends afterwards. -/
structure Reaction where
  bytes : Bytes
  ends : Bool
  deriving DecidableEq, Repr

/-- A worker with a state of its own. -/
structure Worker (π : Type) where
  react : Request → π → Reaction × π

/-- The state of the exchange with a worker. -/
structure Session (π : Type) where
  worker : π
  /-- What the worker wrote and nobody has read. -/
  unread : Bytes
  ended : Bool

namespace Session

variable {π : Type}

/-- The exchange with a worker that has just been started. -/
def start (worker : π) : Session π :=
  ⟨worker, [], false⟩

/-- The first line of a byte string, with its line feed if it has one, and what stands behind
it. -/
def firstLine : Bytes → Bytes × Bytes
  | [] => ([], [])
  | b :: rest =>
    if b = 0x0a then ([b], rest)
    else
      let line := firstLine rest
      (b :: line.1, line.2)

/-- The answer in a line of bytes; no bytes at all mean that the worker has ended. -/
def decode (line : Bytes) : Except ReferenceFault Answer :=
  if line.isEmpty then .error .exited
  else
    match Text.ofUtf8? line with
    | none => .error (.pipe .invalidText)
    | some chars => Response.decode (String.ofList chars)

/-- The session after the worker has reacted to a request. -/
def afterRequest (w : Worker π) (request : Request) (s : Session π) : Session π :=
  let (reaction, worker) := w.react request s.worker
  ⟨worker, s.unread ++ reaction.bytes, reaction.ends⟩

/-- Sends the request for a case and reads one line. A worker that leaves its line without an end is
read as far as it wrote. -/
def exchange (w : Worker π) (c : Case) : StateM (Session π) (Except ReferenceFault Answer) :=
  fun s =>
    if s.ended then (.error (.pipe .brokenPipe), s)
    else
      let asked := s.afterRequest w (Request.ofCase c)
      let line := firstLine asked.unread
      (decode line.1, { asked with unread := line.2 })

end Session

end FormatConformance.Reference
