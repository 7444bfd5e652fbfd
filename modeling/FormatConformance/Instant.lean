import FormatConformance.Calendar
import FormatConformance.Numeral

/-!
# Points in time

A reading of the wall clock, and its text in universal time with milliseconds. Everything before
1970 counts as the start of 1970. How long something took is told by a second clock that cannot be
set.
-/

namespace FormatConformance

/-- A point in time: seconds since the start of 1970, and nanoseconds into the second. -/
structure Instant where
  seconds : Int
  nanoseconds : Nat
  deriving DecidableEq, Repr

namespace Instant

/-- The start of 1970. -/
def epoch : Instant :=
  ⟨0, 0⟩

/-- The instant, or the start of 1970 when that is later. -/
def clamped (i : Instant) : Instant :=
  if i.seconds < 0 then epoch else i

/-- The nanoseconds since the start of 1970. -/
def nanosSinceEpoch (i : Instant) : Nat :=
  i.clamped.seconds.toNat * 1000000000 + i.clamped.nanoseconds

/-- A year of at least four digits. -/
def yearText : Int → List Char
  | .ofNat year => Numeral.paddedDecimal 4 year
  | .negSucc year => '-' :: Numeral.paddedDecimal 3 (year + 1)

/-- The instant as year, month, day, hour, minute, second and millisecond. -/
def timestampChars (i : Instant) : List Char :=
  let now := i.clamped
  let seconds := now.seconds.toNat
  let date := Calendar.ofDays (seconds / 86400 : Nat)
  let two := Numeral.paddedDecimal 2
  yearText date.year ++ '-' :: (two date.month ++ '-' :: (two date.day ++ 'T' ::
    (two (seconds % 86400 / 3600) ++ ':' :: (two (seconds % 3600 / 60) ++ ':' ::
      (two (seconds % 60) ++ '.' ::
        (Numeral.paddedDecimal 3 (now.nanoseconds / 1000000) ++ ['Z']))))))

/-- The text of the instant. -/
def timestamp (i : Instant) : String :=
  String.ofList i.timestampChars

end Instant

/-! ## Clocks -/

/-- The clocks of a run, over a state in which time may go by between any two readings. -/
structure Clock (σ : Type) where
  /-- The time of day. -/
  wall : StateM σ Instant
  /-- The nanoseconds since a point in time that is the same for all readings. -/
  ticks : StateM σ Nat

namespace Clock

/-- A clock that stands still. -/
def stopped {σ : Type} (now : Instant) : Clock σ where
  wall := pure now
  ticks := pure 0

/-- The whole milliseconds between two readings, none when the second one is not later, and no more
than 64 bits can count. -/
def milliseconds (begun ended : Nat) : UInt64 :=
  UInt64.ofNat (min ((ended - begun) / 1000000) Numeral.maxWord64)

theorem toNat_milliseconds (begun ended : Nat) :
    (milliseconds begun ended).toNat = min ((ended - begun) / 1000000) (UInt64.size - 1) :=
  UInt64.toNat_ofNat_of_lt' (Nat.lt_succ_of_le (Nat.min_le_right ..))

end Clock

end FormatConformance
