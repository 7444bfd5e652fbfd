import FormatConformance.Reference.Worker
import FormatConformance.Scripted.Sides

/-!
# Scripted workers

A worker that plays the interpreter from a script: on the request with a number it writes the bytes
of the reply with that number, and may end afterwards. An echoing reply is computed from the
request.
-/

namespace FormatConformance.Scripted

/-- What a scripted worker writes. -/
inductive Output
  | bytes (bytes : Bytes)
  /-- The response that gives the request back. -/
  | echo
  deriving DecidableEq, Repr

/-- What a scripted worker does on one request. -/
structure Move where
  output : Output
  ends : Bool
  deriving DecidableEq, Repr

/-- The template of a request, and a bar and its argument if there is one. A floating point argument
comes back as its bit pattern. -/
def echoedText (r : Reference.Request) : String :=
  match r.argument with
  | none => r.template
  | some (.int value) => r.template ++ "|" ++ String.ofList (Numeral.signedDecimal value.toInt)
  | some (.float bits) => r.template ++ "|" ++ Reference.WireArgument.bitsText bits
  | some (.text value) => r.template ++ "|" ++ value

/-- The response that gives a request back; an exclamation mark in the template is rejected. -/
def echoResponse (r : Reference.Request) : Reference.Response :=
  if r.template.toList.contains '!' then .failure .malformedSpecifier "rejected"
  else .success (echoedText r)

/-- A line of text as bytes, with a line feed behind it. -/
def lineBytes (line : String) : Bytes :=
  Text.bytesOf line ++ [0x0a]

/-- The reaction that a move is on a request. -/
def Move.reaction (m : Move) (r : Reference.Request) : Reference.Reaction where
  bytes :=
    match m.output with
    | .bytes bytes => bytes
    | .echo => lineBytes (echoResponse r).line
  ends := m.ends

/-- The worker of a script, whose state is how many requests it has seen. -/
def worker (script : Script Move) : Reference.Worker Nat where
  react request number := ((script.reply number).reaction request, number + 1)

end FormatConformance.Scripted
