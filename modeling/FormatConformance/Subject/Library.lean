import FormatConformance.Argument

/-!
# Subject libraries

A library exports, for every entry point, a formatter that returns a text or nothing and a probe
that says whether the input is rejected. It is given the template and the argument in the form of
its calling convention: texts are bytes without NUL.
-/

namespace FormatConformance.Subject

/-- An argument in the form of the calling convention. -/
inductive Native
  | nothing
  | int (value : Int32)
  | single (bits : UInt32)
  | double (bits : UInt64)
  | text (bytes : Bytes)
  deriving DecidableEq, Repr

/-- An argument as the library sees it. -/
def Native.ofArgument : Argument → Native
  | .nothing => nothing
  | .int value => int value
  | .single bits => single bits
  | .double bits => double bits
  | .text value => text (Text.bytesOf value)

/-- The exports of a library. -/
structure Library where
  probe : EntryPoint → Bytes → Native → Bool
  /-- The text that a formatter returns, as far as its first NUL; none for a null pointer. -/
  render : EntryPoint → Bytes → Native → Option Bytes

/-- A library as it is found at a path, before its exports are known to be complete. -/
structure Image where
  exports : String → Bool
  library : Library

/-- The names that a library must export, in the order in which they are resolved. -/
def requiredSymbols : List String :=
  EntryPoint.all.flatMap fun entry => [entry.symbol, entry.errorSymbol]

end FormatConformance.Subject
