import FormatConformance.Sides
import FormatConformance.Subject.Bridge
import FormatConformance.Subject.Echo
import FormatConformance.Text.Search

/-!
# Scripted sides

Formatters that answer from a script, so that checks can be tried out without an interpreter and
without a library. A behaviour is a sequence of replies that repeats, or a table of rules that looks
at the case alone. Only how many replies each side has given is kept between calls.
-/

namespace FormatConformance.Scripted

/-- What a rule asks of a case. -/
inductive Condition
  | templateIs (text : String)
  /-- The argument is written in this way. -/
  | literalIs (text : String)
  | specifierHas (part : String)
  | beforeHas (part : String)
  | templateHas (part : String)
  | notANumber (expected : Bool)
  /-- The argument is an integer and not below the bound. -/
  | intAtLeast (bound : Int)
  deriving DecidableEq, Repr

/-- Whether a case meets a condition. -/
def Condition.holds (c : Case) : Condition → Bool
  | templateIs text => c.template = text
  | literalIs text => String.ofList c.argument.literal = text
  | specifierHas part => Text.occursIn part.toList c.specifier.toList
  | beforeHas part => Text.occursIn part.toList c.before.toList
  | templateHas part => Text.occursIn part.toList c.templateChars
  | notANumber expected => c.argument.isNan = expected
  | intAtLeast bound =>
    match c.argument with
    | .int value => bound ≤ value.toInt
    | _ => false

/-- A reply of a side with answers of one type and faults of another. -/
inductive Reply (α φ : Type)
  | gives (answer : α)
  /-- The template and the argument come back, with some text behind them. -/
  | echoes (suffix : String)
  | faults (fault : φ)
  deriving DecidableEq, Repr

/-- The bytes of an echo: the template, and a bar and the argument if there is one. -/
def echo (c : Case) (suffix : String) : Bytes :=
  Subject.Echo.echo (Text.bytesOf c.template) (Subject.Native.ofArgument c.argument)
    ++ Text.bytesOf suffix

/-- What a reply comes to on a case. -/
def Reply.result {α φ : Type} (success : Bytes → α) (c : Case) : Reply α φ → Except φ α
  | gives answer => .ok answer
  | echoes suffix => .ok (success (echo c suffix))
  | faults fault => .error fault

/-- Replies that repeat from the first one on. -/
structure Script (ρ : Type) where
  first : ρ
  later : List ρ
  deriving DecidableEq, Repr

/-- The reply to the call with a number, counting from zero. -/
def Script.reply {ρ : Type} (s : Script ρ) (number : Nat) : ρ :=
  match number % (s.later.length + 1) with
  | 0 => s.first
  | n + 1 => s.later.getD n s.first

/-- How replies are chosen. -/
inductive Behaviour (ρ : Type)
  | script (replies : Script ρ)
  /-- The first rule of which all conditions hold, or else a reply for all other cases. -/
  | rules (table : List (List Condition × ρ)) (otherwise : ρ)
  deriving DecidableEq, Repr

/-- The reply to a case, given how many replies there were before. -/
def Behaviour.reply {ρ : Type} (number : Nat) (c : Case) : Behaviour ρ → ρ
  | script replies => replies.reply number
  | rules table otherwise =>
    ((table.find? fun rule => rule.1.all (Condition.holds c)).map (·.2)).getD otherwise

/-- A scripted reference. -/
abbrev ReferenceSide :=
  Behaviour (Reply Reference.Answer ReferenceFault)

/-- A subject: a library behind the bridge, or a script. -/
inductive SubjectSide
  | library (bridge : Subject.Bridge)
  /-- Without replies of its own, a probe takes the next reply and reports a rejection when that is
  a failure. -/
  | scripted (behaviour : Behaviour (Reply Outcome MarshalFault))
    (probes : Option (Script (Except MarshalFault Bool)))

/-- How many replies were given. -/
structure Counters where
  reference : Nat
  subject : Nat
  probes : Nat
  deriving DecidableEq, Repr

/-- Nothing was asked yet. -/
def Counters.zero : Counters :=
  ⟨0, 0, 0⟩

/-- The next reply of a reference. -/
def format (reference : ReferenceSide) (c : Case) :
    StateM Counters (Except ReferenceFault Reference.Answer) :=
  fun counters =>
    ((reference.reply counters.reference c).result .success c,
      { counters with reference := counters.reference + 1 })

/-- The next reply of a scripted subject. -/
def reply (behaviour : Behaviour (Reply Outcome MarshalFault)) (c : Case) :
    StateM Counters (Except MarshalFault Outcome) :=
  fun counters =>
    ((behaviour.reply counters.subject c).result .success c,
      { counters with subject := counters.subject + 1 })

/-- What a subject makes of a case. -/
def invoke (subject : SubjectSide) (c : Case) : StateM Counters (Except MarshalFault Outcome) :=
  match subject with
  | .library bridge => pure (bridge.invokeCase c)
  | .scripted behaviour _ => reply behaviour c

/-- Whether a subject says that it rejects a case. -/
def probe (subject : SubjectSide) (c : Case) : StateM Counters (Except MarshalFault Bool) :=
  match subject with
  | .library bridge => pure (bridge.probeCase c)
  | .scripted _ (some replies) =>
    fun counters => (replies.reply counters.probes, { counters with probes := counters.probes + 1 })
  | .scripted behaviour none => do return (← reply behaviour c).map Outcome.isFailure

/-- The two sides over the counters. -/
def sides (reference : ReferenceSide) (subject : SubjectSide) : Sides Counters where
  format := format reference
  invoke := invoke subject
  probe := probe subject

end FormatConformance.Scripted
