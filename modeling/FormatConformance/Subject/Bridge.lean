import FormatConformance.Fault
import FormatConformance.Sides
import FormatConformance.Subject.Library

/-!
# The bridge to a subject library

The bridge loads a library, puts arguments into the form of its calling convention, and makes an
outcome of what a call returns. The probe is asked before the formatter is called. What the calling
convention cannot carry is a fault, and then the library is not called at all.
-/

namespace FormatConformance.Subject

/-- The position of the first NUL. -/
def firstNul? (bytes : Bytes) : Option Nat :=
  bytes.findIdx? (· = 0)

/-- A text in the form of the calling convention. -/
def marshalText (what : String) (text : String) : Except MarshalFault Bytes :=
  match firstNul? (Text.bytesOf text) with
  | some position => .error (.interiorNul what position)
  | none => .ok (Text.bytesOf text)

/-- An argument in the form that an entry point takes. -/
def marshalArgument (entry : EntryPoint) (argument : Argument) : Except MarshalFault Native :=
  if argument.entryPoint = entry then
    match argument with
    | .text value => (marshalText "string argument" value).map .text
    | other => .ok (.ofArgument other)
  else .error (.shape entry.symbol argument.kindName)

/-- A template and an argument in the form of the calling convention. -/
def marshal (entry : EntryPoint) (template : String) (argument : Argument) :
    Except MarshalFault (Bytes × Native) := do
  let template ← marshalText "template" template
  let native ← marshalArgument entry argument
  return (template, native)

/-- A library that has been loaded. -/
structure Bridge where
  path : String
  library : Library

namespace Bridge

/-- Loads the library at a path, given how paths are opened. -/
def load (openImage : String → Except String Image) (path : String) : Except LoadFault Bridge :=
  if path.toList.contains '\x00' then .error (.unopened path "path contains a NUL byte")
  else
    match openImage path with
    | .error reason => .error (.unopened path reason)
    | .ok image =>
      match requiredSymbols.find? fun symbol => !image.exports symbol with
      | some symbol => .error (.missingSymbol path symbol ("undefined symbol: " ++ symbol))
      | none => .ok ⟨path, image.library⟩

/-- Asks the library whether it rejects an input. -/
def probe (b : Bridge) (entry : EntryPoint) (template : String) (argument : Argument) :
    Except MarshalFault Bool :=
  (marshal entry template argument).map fun input => b.library.probe entry input.1 input.2

/-- The outcome of an input in the form of the calling convention. -/
def call (b : Bridge) (entry : EntryPoint) (template : Bytes) (native : Native) : Outcome :=
  if b.library.probe entry template native then
    .failure (entry.errorSymbol ++ " reported an error")
  else
    match b.library.render entry template native with
    | none => .failure (entry.symbol ++ " returned null")
    | some text => .success (text.takeWhile (· ≠ 0))

/-- Has the library render an input. -/
def invoke (b : Bridge) (entry : EntryPoint) (template : String) (argument : Argument) :
    Except MarshalFault Outcome :=
  (marshal entry template argument).map fun input => b.call entry input.1 input.2

/-- Has the library render a case. -/
def invokeCase (b : Bridge) (c : Case) : Except MarshalFault Outcome :=
  b.invoke c.entryPoint c.template c.argument

/-- Asks the library whether it rejects a case. -/
def probeCase (b : Bridge) (c : Case) : Except MarshalFault Bool :=
  b.probe c.entryPoint c.template c.argument

/-- The sides with a library as the subject, given what plays the reference. The bridge keeps
nothing between calls. -/
def sides {σ : Type} (b : Bridge)
    (format : Case → StateM σ (Except ReferenceFault Reference.Answer)) : Sides σ where
  format := format
  invoke c := pure (b.invokeCase c)
  probe c := pure (b.probeCase c)

end Bridge

end FormatConformance.Subject
