import FormatConformance.Seed

/-!
# Settings

What a run can be told, with defaults, and the environment variables that replace them. A variable
that cannot be read leaves the default in force.
-/

namespace FormatConformance

/-- The settings of a run. -/
structure Settings where
  /-- How many cases each property must see agree. -/
  cases : UInt32
  /-- Every case is logged with both outcomes. -/
  verbose : Bool
  /-- The greatest length of the text before and after the placeholder. -/
  maxAffix : Nat
  /-- The greatest length of a text argument. -/
  maxText : Nat
  /-- The greatest length of a template without argument. -/
  maxTemplate : Nat
  seed : Option Seed
  /-- Where the subject library is. -/
  library : Option String
  /-- The interpreter that plays the reference. -/
  interpreter : String
  /-- Where the log goes. -/
  log : Option String
  deriving DecidableEq, Repr

namespace Settings

/-- The settings without any other word. -/
def default : Settings where
  cases := 1000
  verbose := false
  maxAffix := 10
  maxText := 10
  maxTemplate := 20
  seed := none
  library := none
  interpreter := "python3"
  log := none

/-! ## Variables -/

/-- The number of cases. -/
def casesVariable : String := "PYFMT_ORACLE_CASES"

/-- The switch that has every case logged. -/
def verboseVariable : String := "PYFMT_ORACLE_VERBOSE"

/-- The seed. -/
def seedVariable : String := "PYFMT_ORACLE_SEED"

/-- The bound on the text around the placeholder. -/
def maxAffixVariable : String := "PYFMT_ORACLE_MAX_AFFIX"

/-- The bound on text arguments. -/
def maxTextVariable : String := "PYFMT_ORACLE_MAX_STRING"

/-- The bound on templates without argument. -/
def maxTemplateVariable : String := "PYFMT_ORACLE_MAX_TEMPLATE"

/-- The interpreter. -/
def interpreterVariable : String := "PYFMT_ORACLE_PYTHON"

/-- The subject library. -/
def libraryVariable : String := "PYFMT_BRIDGE_LIB"

/-- Every variable that is looked up. -/
def variableNames : List String :=
  [casesVariable, verboseVariable, maxAffixVariable, maxTextVariable, maxTemplateVariable,
    seedVariable, libraryVariable, interpreterVariable]

/-- Whether a text switches something on. -/
def readFlag (text : String) : Bool :=
  ["1", "true", "yes", "on"].contains (String.ofList (Text.lowerAscii (Text.trim text.toList)))

/-- A number up to a bound, white space around it not counting. -/
def readNumber? (bound : Nat) (text : String) : Option Nat :=
  (Numeral.readUnsigned 10 bound (Text.trim text.toList)).toOption

/-- The settings under an environment. -/
def ofEnvironment (lookup : String → Option String) : Settings where
  cases :=
    ((((lookup casesVariable).bind (readNumber? Numeral.maxWord32)).filter (0 < ·)).map
      UInt32.ofNat).getD default.cases
  verbose := ((lookup verboseVariable).map readFlag).getD false
  maxAffix := ((lookup maxAffixVariable).bind (readNumber? Numeral.maxWord64)).getD default.maxAffix
  maxText := ((lookup maxTextVariable).bind (readNumber? Numeral.maxWord64)).getD default.maxText
  maxTemplate :=
    ((lookup maxTemplateVariable).bind (readNumber? Numeral.maxWord64)).getD default.maxTemplate
  seed := (lookup seedVariable).bind Seed.read?
  library := (lookup libraryVariable).filter (· ≠ "")
  interpreter :=
    ((lookup interpreterVariable).filter fun text => !(Text.trim text.toList).isEmpty).getD
      default.interpreter
  log := none

end Settings

end FormatConformance
