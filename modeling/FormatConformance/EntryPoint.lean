import FormatConformance.Text.Blank

/-!
# Entry points

A formatting library offers one entry point per kind of argument, and beside each of them a probe
that only says whether the input is rejected.
-/

namespace FormatConformance

/-- The kinds of call, named for the argument that they take beside the template. -/
inductive EntryPoint
  | nothing
  | int
  | single
  | double
  | text
  deriving DecidableEq, Repr

namespace EntryPoint

/-- Every entry point, in the order in which they are checked. -/
def all : List EntryPoint :=
  [nothing, int, single, double, text]

/-- The exported name of the formatter. -/
def symbol : EntryPoint → String
  | nothing => "FormatNothing"
  | int => "FormatOneInt"
  | single => "FormatOneFloat"
  | double => "FormatOneDouble"
  | text => "FormatOneString"

/-- The exported name of the probe beside the formatter. -/
def errorSymbol (entry : EntryPoint) : String :=
  entry.symbol ++ "Error"

/-- The name in command lines, logs and reports. -/
def name : EntryPoint → String
  | nothing => "no_args"
  | int => "int"
  | single => "float"
  | double => "double"
  | text => "string"

/-- The spellings in lower case that are read as an entry point. -/
def spellings : EntryPoint → List String
  | nothing => ["no_args", "noargs", "nothing", "formatnothing"]
  | int => ["int", "oneint", "i32", "formatoneint"]
  | single => ["float", "float32", "f32", "onefloat32", "formatonefloat"]
  | double => ["double", "float64", "f64", "onefloat64", "formatonedouble"]
  | text => ["string", "str", "onestring", "formatonestring"]

/-- Reads an entry point in any of its spellings, in any ASCII case. -/
def read? (text : String) : Option EntryPoint :=
  let word := String.ofList (Text.lowerAscii text.toList)
  all.find? fun entry => entry.spellings.contains word

end EntryPoint

end FormatConformance
