import FormatConformance.Log.Emitter
import FormatConformance.Property
import FormatConformance.Report
import FormatConformance.Settings

/-!
# Events of a run

What happens in a run, and what the log says of it. A check is only logged when the settings ask for
it. An entry has the time at which it was made.
-/

namespace FormatConformance.Run

/-- An event of a run. -/
inductive Event
  | started (property : Property)
  | checked (property : Property) (check : Checked)
  /-- A property ended; the mismatch is the one on the smallest case. -/
  | ended (property : Property) (result : PropertyResult) (minimal : Option Mismatch)
  deriving DecidableEq, Repr

/-- The circumstances of a run. -/
structure Circumstances where
  settings : Settings
  seed : Seed

/-- The word of the log for a verdict. -/
def statusOfVerdict : Verdict → Log.Status
  | .agree => .pass
  | .discard _ => .discard
  | .mismatch _ => .fail

/-- The word of the log for the end of a property. -/
def statusOfResult : PropertyStatus → Log.Status
  | .pass => .pass
  | .fail => .fail
  | .abort => .abort

/-- The level at which the end of a property is logged. -/
def levelOfResult : PropertyStatus → Log.Level
  | .pass => .info
  | .fail => .error
  | .abort => .error

/-- An entry about a property, with nothing else in it yet. -/
def entryFor (now : Instant) (level : Log.Level) (event : String) (p : Property) : Log.Entry :=
  { Log.Entry.new now level event with
    entryPoint := some p.entry.name, property := some p.demand.name }

/-- An entry with a case and two outcomes. -/
def withOutcomes (e : Log.Entry) (c : Case) (left right : Outcome) : Log.Entry :=
  { e with input := some c.record, reference := some left.record, subject := some right.record }

/-- What the log says when a property starts. -/
def startedEntry (run : Circumstances) (now : Instant) (p : Property) : Log.Entry :=
  { entryFor now .info "property_start" p with
    details := some (.object
      [("cases", .nat run.settings.cases.toNat), ("seed", .string run.seed.text)]) }

/-- What the log says of a check. -/
def checkedEntry (now : Instant) (p : Property) (c : Checked) : Log.Entry :=
  { withOutcomes (entryFor now .trace "case" p) c.input c.left c.right with
    outcome := some (statusOfVerdict c.verdict) }

/-- What the log says when a property has ended. -/
def endedEntry (now : Instant) (p : Property) (r : PropertyResult) (minimal : Option Mismatch) :
    Log.Entry :=
  let entry :=
    { entryFor now (levelOfResult r.status) "property_end" p with
      outcome := some (statusOfResult r.status)
      duration := some r.duration
      details := some (.object
        [("abort_reason", .ofOption .string r.abortReason), ("discarded", .nat r.discarded.toNat),
          ("passed", .nat r.passed.toNat)]) }
  match minimal with
  | some m => withOutcomes entry m.input m.reference m.subject
  | none => entry

/-- Whether the log has something to say of an event. -/
def Event.isLogged (settings : Settings) : Event → Bool
  | started _ => true
  | checked _ _ => settings.verbose
  | ended .. => true

/-- What the log says of an event at some time. -/
def Event.entry (run : Circumstances) (now : Instant) : Event → Log.Entry
  | started p => startedEntry run now p
  | checked p c => checkedEntry now p c
  | ended p r minimal => endedEntry now p r minimal

end FormatConformance.Run
