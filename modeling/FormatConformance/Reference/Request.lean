import FormatConformance.Case
import FormatConformance.Json.Printer

/-!
# Requests to the reference

A request is one line of JSON with the template and the argument. A floating point argument travels
as the bit pattern of a double, so that nothing is lost; a single is widened first.
-/

namespace FormatConformance.Reference

/-- An argument as it travels. -/
inductive WireArgument
  | int (value : Int32)
  | float (bits : UInt64)
  | text (value : String)
  deriving DecidableEq, Repr

namespace WireArgument

/-- The argument of a case as it travels. -/
def ofArgument? : Argument → Option WireArgument
  | .nothing => none
  | .int value => some (.int value)
  | .single bits => some (.float (UInt64.ofNat (Ieee.widen bits.toNat)))
  | .double bits => some (.float bits)
  | .text value => some (.text value)

/-- A bit pattern as it travels. -/
def bitsText (bits : UInt64) : String :=
  String.ofList (Numeral.hexPattern 16 bits.toNat)

/-- The JSON form of an argument. -/
def toJson : WireArgument → Json
  | int value => .object [("kind", .string "int"), ("value", .number (.int value.toInt))]
  | float bits => .object [("kind", .string "float"), ("bits", .string (bitsText bits))]
  | text value => .object [("kind", .string "string"), ("value", .string value)]

end WireArgument

/-- A request. -/
structure Request where
  template : String
  argument : Option WireArgument
  deriving DecidableEq, Repr

namespace Request

/-- The request for a case. -/
def ofCase (c : Case) : Request :=
  ⟨c.template, WireArgument.ofArgument? c.argument⟩

/-- The JSON form of a request. -/
def toJson (r : Request) : Json :=
  .object [("template", .string r.template), ("arg", .ofOption WireArgument.toJson r.argument)]

/-- The line of a request, without a line break. -/
def line (r : Request) : String :=
  r.toJson.line

end Request

end FormatConformance.Reference
