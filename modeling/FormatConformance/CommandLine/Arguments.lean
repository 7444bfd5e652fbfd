/-!
# Arguments of a command

Options are named behind two hyphens and take their value behind an equals sign or from the next
argument; switches take none. All other arguments count by their places. A value that begins with a
hyphen is only taken where that is allowed, and two hyphens alone end the options. Whatever does not
fit is refused, and a question for help is answered before anything behind it is looked at.
-/

namespace FormatConformance.CommandLine

/-- An option or a switch. -/
structure Opt where
  name : String
  takesValue : Bool
  /-- The value may begin with a hyphen. -/
  anyValue : Bool
  /-- It may be given more than once. -/
  many : Bool
  /-- Which values are taken. -/
  accepts : String → Bool

/-- An argument that counts by its place. -/
structure Place where
  required : Bool
  /-- It may begin with a hyphen. -/
  anyValue : Bool

/-- The arguments that a command takes. -/
structure Signature where
  options : List Opt
  places : List Place

/-- The arguments that a command was given. -/
structure Given where
  /-- The options with their values; a switch has the empty text. -/
  options : List (String × String)
  places : List String
  deriving DecidableEq, Repr

/-- Why the arguments of a command are not used. -/
inductive Stop
  /-- They do not fit. -/
  | misuse
  /-- Help is asked for. -/
  | help
  deriving DecidableEq, Repr

namespace Given

/-- Nothing given yet. -/
def nothing : Given :=
  ⟨[], []⟩

/-- The values of an option in order. -/
def values (g : Given) (name : String) : List String :=
  g.options.filterMap fun o => if o.1 = name then some o.2 else none

/-- The value of an option that is given at most once. -/
def value? (g : Given) (name : String) : Option String :=
  (g.values name).head?

/-- Whether a switch is given. -/
def has (g : Given) (name : String) : Bool :=
  !(g.values name).isEmpty

/-- Adds the value of an option, unless it is refused or must not be given again. -/
def addOption (g : Given) (o : Opt) (value : String) : Except Stop Given :=
  if !o.accepts value || (!o.many && g.has o.name) then .error .misuse
  else .ok { g with options := g.options ++ [(o.name, value)] }

/-- Adds an argument at the next place. -/
def addPlace (s : Signature) (g : Given) (value : String) : Except Stop Given :=
  if g.places.length < s.places.length then .ok { g with places := g.places ++ [value] }
  else .error .misuse

end Given

/-- The forms of an argument. -/
inductive Form
  | plain
  /-- Two hyphens alone. -/
  | terminator
  /-- A name behind two hyphens, and what stands behind an equals sign. -/
  | long (name : String) (attached : Option String)
  /-- Letters behind one hyphen. -/
  | short (letters : List Char)
  deriving DecidableEq, Repr

/-- The form of an argument. -/
def Form.of (argument : String) : Form :=
  match argument.toList with
  | ['-', '-'] => .terminator
  | '-' :: '-' :: rest =>
    match rest.span (· ≠ '=') with
    | (name, _ :: value) => .long (String.ofList name) (some (String.ofList value))
    | (name, []) => .long (String.ofList name) none
  | '-' :: c :: rest => .short (c :: rest)
  | _ => .plain

/-- What an argument is taken for, when it is no option that is already pending. -/
inductive Reading
  /-- A value of the pending option, or else an argument at the next place. -/
  | value
  | option (o : Opt) (attached : Option String)
  | terminator
  | stop (reason : Stop)

/-- Whether the argument at the next place may begin with a hyphen. -/
def nextTakesAny (s : Signature) (g : Given) : Bool :=
  (s.places[g.places.length]?).any Place.anyValue

/-- What an argument is taken for before the options have ended. -/
def Reading.of (s : Signature) (g : Given) (pending : Option Opt) (argument : String) : Reading :=
  if pending.any Opt.anyValue then .value
  else
    match Form.of argument with
    | .plain => .value
    | .terminator => .terminator
    | .long name attached =>
      if name = "help" then .stop (if attached.isSome then .misuse else .help)
      else
        match s.options.find? fun o => o.name = name with
        | some o => .option o attached
        | none => if nextTakesAny s g then .value else .stop .misuse
    | .short letters =>
      if nextTakesAny s g && letters.any (· ≠ 'h') then .value
      else .stop (if letters.head? = some 'h' then .help else .misuse)

/-- Reads the arguments behind the options. -/
def readPlaces (s : Signature) (g : Given) : List String → Except Stop Given
  | [] => .ok g
  | argument :: rest => do readPlaces s (← g.addPlace s argument) rest

/-- Whether all required places are filled. -/
def isComplete (s : Signature) (g : Given) : Bool :=
  (s.places.drop g.places.length).all fun place => !place.required

/-- Reads arguments, an option waiting for its value or not. -/
def readFrom (s : Signature) (g : Given) (pending : Option Opt) : List String → Except Stop Given
  | [] => if pending.isSome then .error .misuse else .ok g
  | argument :: rest =>
    match Reading.of s g pending argument, pending with
    | .value, some o => do readFrom s (← g.addOption o argument) none rest
    | .value, none => do readFrom s (← g.addPlace s argument) none rest
    | _, some _ => .error .misuse
    | .stop reason, none => .error reason
    | .terminator, none => readPlaces s g rest
    | .option o attached, none =>
      match o.takesValue, attached with
      | true, some value => do readFrom s (← g.addOption o value) none rest
      | true, none => readFrom s g (some o) rest
      | false, none => do readFrom s (← g.addOption o "") none rest
      | false, some _ => .error .misuse

/-- Reads the arguments of a command. -/
def Signature.read (s : Signature) (arguments : List String) : Except Stop Given := do
  let given ← readFrom s .nothing none arguments
  if isComplete s given then return given else throw .misuse

end FormatConformance.CommandLine
