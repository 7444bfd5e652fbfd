import FormatConformance.Generation.Case
import FormatConformance.Generation.Smaller
import FormatConformance.Run.Event
import FormatConformance.Run.Tally
import FormatConformance.Scenario

/-!
# Running properties

A runner explores each property over the generated cases of its entry point and reports what it came
to. What happens is noted: what the log has to say of it goes to a sink, if there is one, with the
time by the clock. The first fault, of a side or of the sink, ends everything.
-/

namespace FormatConformance.Run

/-- Where the entries of a log are written, over the state that the sides share. -/
abbrev Sink (σ : Type) := Log.Entry → StateM σ (Except SystemFault Unit)

variable {σ ρ : Type}

/-- What properties are run with. -/
structure Runner (σ : Type) where
  sides : Sides σ
  clock : Clock σ
  circumstances : Circumstances
  /-- The cases of each entry point. -/
  cases : EntryPoint → Nat → Case
  shrinker : Exploration.Shrinker Case
  /-- The log, if one is attached. -/
  sink : Option (Sink σ)

/-- The runner for some settings, which takes the seed of the settings or else another one. No log
is attached. -/
def Runner.ofSettings (sides : Sides σ) (clock : Clock σ) (settings : Settings) (other : Seed) :
    Runner σ :=
  let seed := settings.seed.getD other
  { sides, clock
    circumstances := ⟨settings, seed⟩
    cases := Generation.stream settings (.ofSeed seed)
    shrinker := Generation.shrinker settings.cases
    sink := none }

/-- The same runner beside a record, to which the exchanges with the sides are added, and with
another sink. -/
def Runner.recorded (r : Runner σ) (add : Exchange → ρ → ρ) (sink : Option (Sink (Recorded σ ρ))) :
    Runner (Recorded σ ρ) where
  sides := r.sides.recorded add
  clock := r.clock.beside
  circumstances := r.circumstances
  cases := r.cases
  shrinker := r.shrinker
  sink := sink

/-- Emits each entry to a log and has the log written out, which may end in a fault. -/
def emitTo (flush : Log.Emitter → StateM σ (Except SystemFault Unit)) :
    Sink (Recorded σ Log.Emitter) :=
  fun entry s =>
    let log := s.record.emit entry
    let (written, state) := (flush log).run s.state
    (written, ⟨state, log⟩)

/-- The same runner with a log attached. -/
def Runner.logged (r : Runner σ) (flush : Log.Emitter → StateM σ (Except SystemFault Unit)) :
    Runner (Recorded σ Log.Emitter) :=
  r.recorded (fun _ log => log) (some (emitTo flush))

/-- The bounds of the exploration of a property that must see some cases agree. -/
def limits (cases : UInt32) : Exploration.Limits where
  wanted := cases.toNat
  tolerated := max 1024 (min (4 * cases.toNat) Numeral.maxWord32)

/-- Why a property was given up. -/
def gaveUpReason : String :=
  "Too many global rejects"

/-- The status of a property by the ending of its exploration. -/
def statusOfEnding : Exploration.Ending Case → PropertyStatus
  | .finished => .pass
  | .gaveUp => .abort
  | .failed _ => .fail

/-- Why a property was given up, if it was. -/
def abortReason? : Exploration.Ending Case → Option String
  | .gaveUp => some gaveUpReason
  | _ => none

/-- The result of a property, given the mismatch on the smallest case and how long it took. -/
def resultOf (p : Property) (tally : Tally) (ending : Exploration.Ending Case)
    (minimal : Option Mismatch) (duration : UInt64) : PropertyResult where
  entryPoint := p.entry.name
  property := p.demand.name
  status := statusOfEnding ending
  passed := tally.passed
  discarded := tally.discarded
  firstFailure := tally.firstFailure.map Mismatch.record
  minimalFailure := minimal.map Mismatch.record
  abortReason := abortReason? ending
  duration := duration

/-- The state in the course of a property: the tally beside the state of the sides. -/
structure Progress (σ : Type) where
  tally : Tally
  sides : σ

namespace Runner

/-- Reads the time of day. -/
def time (r : Runner σ) : Check σ Instant :=
  ExceptT.lift r.clock.wall

/-- Reads how much time has gone by. -/
def ticks (r : Runner σ) : Check σ Nat :=
  ExceptT.lift r.clock.ticks

/-- Writes an entry, if a log is attached. -/
def write (r : Runner σ) (entry : Log.Entry) : Check σ Unit :=
  match r.sink with
  | none => pure ()
  | some sink => ExceptT.mk do return (← sink entry).mapError .system

/-- Writes what the log has to say of an event. -/
def note (r : Runner σ) (e : Event) : Check σ Unit :=
  if e.isLogged r.circumstances.settings then do
    let now ← r.time
    r.write (e.entry r.circumstances now)
  else pure ()

/-- Checks a case of a property and notes the check. -/
def check (r : Runner σ) (p : Property) (c : Case) : Check σ Checked := do
  let checked ← Property.check r.sides p.demand c
  r.note (.checked p checked)
  return checked

/-- Tries a case of a property. After a fault nothing is checked any more, however often the
exploration asks. -/
def trial (r : Runner σ) (p : Property) (c : Case) : StateM (Progress σ) Exploration.Trial :=
  fun s =>
    if s.tally.fatal.isSome then (.failed, s)
    else
      let (checked, sides) := (r.check p c).run s.sides
      let verdict := checked.map Checked.verdict
      (trialOf verdict, ⟨s.tally.record verdict, sides⟩)

/-- Explores the cases of a property: how that ended, and the tally. -/
def exploration (r : Runner σ) (p : Property) : Check σ (Exploration.Ending Case × Tally) :=
  ExceptT.mk fun s =>
    let (ending, after) := (Exploration.explore (limits r.circumstances.settings.cases) r.shrinker
      (r.cases p.entry) (r.trial p)).run ⟨.empty, s⟩
    (.ok (ending, after.tally), after.sides)

/-- The mismatch on the smallest case, which is checked once more. When it agrees that time, the
first mismatch stands for it. -/
def minimalMismatch? (r : Runner σ) (p : Property) (first : Option Mismatch) :
    Exploration.Ending Case → Check σ (Option Mismatch)
  | .failed c => do
    let checked ← r.check p c
    return checked.verdict.mismatch? <|> first
  | _ => return none

/-- Runs a property. -/
def runProperty (r : Runner σ) (p : Property) : Check σ PropertyResult := do
  let begun ← r.ticks
  r.note (.started p)
  let (ending, tally) ← r.exploration p
  match tally.fatal with
  | some fault => throw fault
  | none =>
    let minimal ← r.minimalMismatch? p tally.firstFailure ending
    let ended ← r.ticks
    let result := resultOf p tally ending minimal (Clock.milliseconds begun ended)
    r.note (.ended p result minimal)
    return result

/-- Runs properties in order. -/
def runProperties (r : Runner σ) : List Property → Check σ (List PropertyResult)
  | [] => return []
  | p :: rest => do
    let result ← r.runProperty p
    let results ← r.runProperties rest
    return result :: results

/-- Runs both properties of each entry point. -/
def runAll (r : Runner σ) (entries : List EntryPoint) : Check σ (List PropertyResult) :=
  r.runProperties (Property.ofEntries entries)

/-- Runs both properties of each entry point and verifies a table of scenarios. The library that was
tested is for the caller to fill in. -/
def report (r : Runner σ) (title reference : String) (entries : List EntryPoint)
    (table : List Scenario) : Check σ Report := do
  let now ← r.time
  let properties ← r.runAll entries
  let scenarios ← Scenario.verifyAll r.sides table
  return { Report.new now title r.circumstances.seed reference with
    casesPerProperty := r.circumstances.settings.cases, properties, scenarios := some scenarios }

end Runner

end FormatConformance.Run
