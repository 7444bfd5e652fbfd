import FormatConformance.Instant
import FormatConformance.Proofs.Calendar
import FormatConformance.Proofs.Numeral
import Mathlib.Data.String.Basic

/-!
# Timestamps read back and sorted

A timestamp is a row of numbers, each in a field of fixed width with a mark behind it. Such a row is
read back number by number (`Row.read?_write`), and because every number fills its field the texts
stand in the order of the rows (`Row.write_lt_write`). That the rows of two instants stand in the
order of the instants is a matter of the calendar alone (`Stamp.instant_lt_instant`). Both together
make the text of an instant one that can be read and sorted (`Instant.timestamp_faithful`).
-/

namespace FormatConformance

open Numeral Calendar

/-! ## Rows of numbers

A field of fixed width is what makes both halves work: the text can be cut without a look at its
digits, and a greater number has the later text. -/

namespace Row

/-- The place of a number in a row: how many digits it has, and the mark behind them. -/
structure Field where
  width : Nat
  mark : Char
  width_pos : 0 < width

/-- Every number has its field, and not more digits than there is room for. -/
def Fits (fields : List Field) (values : List Nat) : Prop :=
  List.Forall₂ (fun field value => value < 10 ^ field.width) fields values

/-- Numbers written into their fields, with zeros in front. -/
def write : List Field → List Nat → List Char
  | field :: fields, value :: values =>
    paddedDecimal field.width value ++ field.mark :: write fields values
  | _, _ => []

/-- The numbers of a row, when every field holds nothing but digits and has its mark behind it and
the text ends with the last field. -/
def read? : List Field → List Char → Option (List Nat)
  | [], [] => some []
  | [], _ :: _ => none
  | field :: fields, text =>
    match readDigits 10 (10 ^ field.width) .tooLarge (text.take field.width),
      text.drop field.width with
    | .ok value, mark :: rest =>
      if mark = field.mark then (read? fields rest).map (value :: ·) else none
    | _, _ => none

/-- The outline of a row, with a zero for each digit. -/
def outline (fields : List Field) : List Char :=
  fields.flatMap fun field => List.replicate field.width '0' ++ [field.mark]

/-- A text that has a digit where its outline has a zero, and elsewhere what the outline has. -/
def HasOutline (outline text : List Char) : Prop :=
  List.Forall₂ (fun mark c => if mark = '0' then c.isDigit = true else c = mark) outline text

theorem hasOutline_digits {width : Nat} {text : List Char} (length : text.length = width)
    (digits : ∀ c ∈ text, c.isDigit = true) : HasOutline (List.replicate width '0') text := by
  induction text generalizing width with
  | nil =>
    rw [← length]
    exact .nil
  | cons c rest ih =>
    rw [← length]
    obtain ⟨first, others⟩ := List.forall_mem_cons.1 digits
    exact .cons ((if_pos rfl).mpr first) (ih rfl others)

theorem hasOutline_write {fields : List Field} {values : List Nat}
    (fits : Fits fields values) : HasOutline (outline fields) (write fields values) := by
  induction fits with
  | nil => exact .nil
  | @cons field value fields values fits _ ih =>
    have digits : HasOutline (List.replicate field.width '0') (paddedDecimal field.width value) :=
      hasOutline_digits (length_paddedDecimal field.width_pos fits)
        fun _ => isDigit_of_mem_paddedDecimal
    have mark : HasOutline [field.mark] [field.mark] := by
      refine .cons ?_ .nil
      -- A mark that looks like a place for a digit is a digit, so no field has to exclude it.
      by_cases zero : field.mark = '0'
      · rw [if_pos zero, zero]
        decide
      · rw [if_neg zero]
    have whole := List.rel_append digits (List.rel_append mark ih)
    rw [outline, List.flatMap_cons, List.append_assoc]
    exact whole

theorem read?_write {fields : List Field} {values : List Nat}
    (fits : Fits fields values) : read? fields (write fields values) = some values := by
  induction fits with
  | nil => rfl
  | @cons field value fields values fits _ ih =>
    have length := length_paddedDecimal field.width_pos fits
    -- As the number fills its field, the text is cut where it was put together.
    rw [write, read?, List.take_left' length, List.drop_left' length,
      readDigits_paddedDecimal fits.le]
    simp only [if_pos, ih, Option.map_some]

theorem append_lt_append {α : Type} [LinearOrder α] {front front' back back' : List α}
    (same_length : front.length = front'.length) (less : front < front') :
    front ++ back < front' ++ back' := by
  induction front generalizing front' with
  | nil =>
    rw [List.length_eq_zero_iff.1 same_length.symm] at less
    exact absurd less (lt_irrefl _)
  | cons a front ih =>
    obtain ⟨b, front', rfl⟩ := List.exists_cons_of_length_eq_add_one same_length.symm
    rw [List.cons_append, List.cons_append, List.cons_lt_cons_iff]
    -- The order of lists looks at the first place where they differ, and that lies in the fronts.
    rcases List.cons_lt_cons_iff.1 less with first | ⟨same, later⟩
    · exact .inl first
    · exact .inr ⟨same, ih (Nat.succ.inj same_length) later⟩

/-- Texts stand in the order of the numbers that are written in them. -/
theorem write_lt_write {fields : List Field} {values values' : List Nat}
    (fits : Fits fields values) (fits' : Fits fields values') (less : values < values') :
    write fields values < write fields values' := by
  induction fits generalizing values' with
  | nil =>
    cases fits'
    exact absurd less (lt_irrefl _)
  | @cons field value fields values fits _ ih =>
    obtain ⟨value', values', room, others', rfl⟩ := List.forall₂_cons_left_iff.1 fits'
    rw [write, write]
    -- Either this number decides, and then its digits do, or its field is the same in both texts.
    rcases List.cons_lt_cons_iff.1 less with first | ⟨rfl, later⟩
    · refine append_lt_append ?_ (paddedDecimal_lt_paddedDecimal field.width_pos first room)
      rw [length_paddedDecimal field.width_pos fits, length_paddedDecimal field.width_pos room]
    · apply List.append_left_lt
      exact List.cons_lt_cons_iff.2 (.inr ⟨rfl, ih others' later⟩)

end Row

/-! ## Stamps

The numbers of a stamp are in the order of a row, year first. In their ranges no two stamps tell the
same instant, as no field can make up for another. -/

/-- What a timestamp tells of an instant. -/
structure Stamp where
  year : Nat
  month : Nat
  day : Nat
  hour : Nat
  minute : Nat
  second : Nat
  millisecond : Nat
  deriving DecidableEq, Repr

namespace Stamp

/-- Year, month, day, hour, minute, second and millisecond. -/
def fields : List Row.Field :=
  [⟨4, '-', by decide⟩, ⟨2, '-', by decide⟩, ⟨2, 'T', by decide⟩, ⟨2, ':', by decide⟩,
    ⟨2, ':', by decide⟩, ⟨2, '.', by decide⟩, ⟨3, 'Z', by decide⟩]

def values (s : Stamp) : List Nat :=
  [s.year, s.month, s.day, s.hour, s.minute, s.second, s.millisecond]

/-- The stamp in the form of RFC 3339. -/
def text (s : Stamp) : String :=
  String.ofList (Row.write fields s.values)

/-- The stamp that a text of this form shows. -/
def read? (text : String) : Option Stamp :=
  match Row.read? fields text.toList with
  | some [year, month, day, hour, minute, second, millisecond] =>
    some ⟨year, month, day, hour, minute, second, millisecond⟩
  | _ => none

def date (s : Stamp) : Date :=
  ⟨s.year, s.month, s.day⟩

/-- The instant in universal time: the days since 1970 and the time of the day. -/
def instant (s : Stamp) : Instant :=
  ⟨86400 * s.date.number + (3600 * s.hour + 60 * s.minute + s.second : Nat),
    1000000 * s.millisecond⟩

/-- A stamp of a day that there is, and of a time that this day has. -/
structure InRange (s : Stamp) : Prop where
  year : s.year < 10000
  date : s.date.Valid
  hour : s.hour < 24
  minute : s.minute < 60
  second : s.second < 60
  millisecond : s.millisecond < 1000

variable {s t : Stamp}

theorem InRange.fits (range : s.InRange) : Row.Fits fields s.values := by
  obtain ⟨year, ⟨-, month, -, day⟩, hour, minute, second, millisecond⟩ := range
  have month : s.month ≤ 12 := month
  have day : s.day ≤ 31 := day.trans (monthLength_le _ _)
  -- A day of a month has two digits because no month is longer than 31 days.
  refine .cons year (.cons ?_ (.cons ?_ (.cons ?_ (.cons ?_ (.cons ?_ (.cons millisecond .nil))))))
  all_goals
    show _ < 10 ^ 2
    omega

theorem toList_text (s : Stamp) : s.text.toList = Row.write fields s.values :=
  String.toList_ofList

theorem read?_text (range : s.InRange) : read? s.text = some s := by
  rw [read?, toList_text, Row.read?_write range.fits]
  rfl

theorem text_lt_text (range : s.InRange) (range' : t.InRange) (less : s.values < t.values) :
    s.text < t.text := by
  rw [String.lt_iff_toList_lt, toList_text, toList_text]
  exact Row.write_lt_write range.fits range'.fits less

/-- A later row of numbers is that of a later instant. -/
theorem instant_lt_instant (range : s.InRange) (range' : t.InRange) (less : s.values < t.values) :
    s.instant.seconds < t.instant.seconds ∨
      s.instant.seconds = t.instant.seconds ∧ s.instant.nanoseconds < t.instant.nanoseconds := by
  have hour := range.hour
  have minute := range.minute
  have second := range.second
  simp only [values, List.cons_lt_cons_iff, List.not_lt_nil, and_false, or_false] at less
  -- On one day the time of the day decides. On different days the earlier day is over before the
  -- later one begins, whatever the times.
  by_cases same : s.date = t.date
  · obtain ⟨year, month, day⟩ := Date.mk.inj same
    simp only [instant, same]
    omega
  · have before : s.date.Before t.date := by
      simp only [date, Date.mk.injEq] at same
      simp only [Date.Before, date]
      omega
    have earlier := Date.number_lt_number range.date range'.date before
    left
    simp only [instant]
    omega

end Stamp

/-! ## The text of an instant -/

namespace Instant

variable {i j : Instant}

/-- A reading of the clock from 1970 on and before the year 10000. -/
structure Dated (i : Instant) : Prop where
  nanoseconds_lt : i.nanoseconds < 1000000000
  seconds_nonneg : 0 ≤ i.seconds
  seconds_lt : i.seconds < 86400 * yearStart 10000

/-- The instant rounded down to the millisecond. -/
def toMillisecond (i : Instant) : Instant :=
  ⟨i.seconds, 1000000 * (i.nanoseconds / 1000000)⟩

/-- The day of an instant. -/
def date (i : Instant) : Date :=
  ofDays (i.seconds / 86400)

def stamp (i : Instant) : Stamp :=
  let seconds := i.seconds.toNat
  ⟨i.date.year.toNat, i.date.month, i.date.day, seconds % 86400 / 3600, seconds % 3600 / 60,
    seconds % 60, i.nanoseconds / 1000000⟩

theorem Dated.clamped (dated : i.Dated) : i.clamped = i :=
  if_neg (not_lt.2 dated.seconds_nonneg)

theorem Dated.year (dated : i.Dated) : 0 ≤ i.date.year ∧ i.date.year < 10000 := by
  obtain ⟨-, nonneg, below⟩ := dated
  have valid : i.date.Valid := valid_ofDays _
  have number : i.date.number = i.seconds / 86400 := number_ofDays _
  have starts := valid.yearStart_le_number
  have ends := valid.number_lt_yearStart
  rw [number] at starts ends
  -- A year before 1970 or behind 9999 would end or start at a day that is not the counted one.
  constructor
  · by_contra negative
    have early : yearStart (i.date.year + 1) ≤ yearStart 1970 := yearStart_mono (by omega)
    rw [yearStart_epoch] at early
    omega
  · by_contra late
    have late : yearStart 10000 ≤ yearStart i.date.year := yearStart_mono (by omega)
    omega

theorem Dated.stamp_date (dated : i.Dated) : i.stamp.date = i.date := by
  have year : (i.date.year.toNat : Int) = i.date.year := Int.toNat_of_nonneg dated.year.1
  rw [Stamp.date, stamp, year]

theorem Dated.inRange (dated : i.Dated) : i.stamp.InRange where
  year := by
    have year := dated.year
    show i.date.year.toNat < 10000
    omega
  date := by
    rw [dated.stamp_date]
    exact valid_ofDays _
  hour := by
    show i.seconds.toNat % 86400 / 3600 < 24
    omega
  minute := by
    show i.seconds.toNat % 3600 / 60 < 60
    omega
  second := Nat.mod_lt _ (by decide)
  millisecond := Nat.div_lt_of_lt_mul dated.nanoseconds_lt

theorem Dated.timestamp_eq (dated : i.Dated) : i.timestamp = i.stamp.text := by
  have day : ((i.seconds.toNat / 86400 : Nat) : Int) = i.seconds / 86400 := by
    have nonneg := dated.seconds_nonneg
    omega
  have year : yearText i.date.year = paddedDecimal 4 i.date.year.toNat := by
    obtain ⟨year, same⟩ := Int.eq_ofNat_of_zero_le dated.year.1
    rw [same]
    rfl
  rw [date] at year
  simp only [timestamp, timestampChars, dated.clamped, day, year]
  rfl

/-- The stamp of an instant tells the instant up to the millisecond. -/
theorem Dated.instant_stamp (dated : i.Dated) : i.stamp.instant = i.toMillisecond := by
  have number : i.date.number = i.seconds / 86400 := number_ofDays _
  have nonneg := dated.seconds_nonneg
  rw [Stamp.instant, dated.stamp_date, number, toMillisecond, Instant.mk.injEq]
  -- Hours, minutes and seconds are the digits of the seconds of the day, so they add up to them.
  refine ⟨?_, rfl⟩
  simp only [stamp]
  omega

theorem Dated.read?_timestamp (dated : i.Dated) :
    Stamp.read? i.timestamp = some i.stamp := by
  rw [dated.timestamp_eq]
  exact Stamp.read?_text dated.inRange

theorem Dated.hasOutline_timestamp (dated : i.Dated) :
    Row.HasOutline "0000-00-00T00:00:00.000Z".toList i.timestamp.toList := by
  have shape := Row.hasOutline_write dated.inRange.fits
  rw [dated.timestamp_eq, Stamp.toList_text]
  exact shape

theorem Dated.nanosSinceEpoch_eq (dated : i.Dated) :
    i.nanosSinceEpoch = i.seconds.toNat * 1000000000 + i.nanoseconds := by
  rw [nanosSinceEpoch, dated.clamped]

/-- Instants have their timestamps in their own order. -/
theorem Dated.timestamp_le_timestamp (dated : i.Dated) (dated' : j.Dated)
    (before : i.nanosSinceEpoch ≤ j.nanosSinceEpoch) : i.timestamp ≤ j.timestamp := by
  have ordered : i.stamp.values ≤ j.stamp.values := by
    -- If the rows stood the other way, then the instants would, because each stamp tells its own.
    by_contra behind
    have after := Stamp.instant_lt_instant dated'.inRange dated.inRange (not_le.1 behind)
    rw [dated.instant_stamp, dated'.instant_stamp] at after
    simp only [toMillisecond] at after
    rw [dated.nanosSinceEpoch_eq, dated'.nanosSinceEpoch_eq] at before
    obtain ⟨short, nonneg, -⟩ := dated
    obtain ⟨short', nonneg', -⟩ := dated'
    omega
  rw [dated.timestamp_eq, dated'.timestamp_eq]
  rcases ordered.lt_or_eq with less | same
  · exact (Stamp.text_lt_text dated.inRange dated'.inRange less).le
  · rw [Stamp.text, Stamp.text, same]

theorem Dated.timestamp_eq_iff (dated : i.Dated) (dated' : j.Dated) :
    i.timestamp = j.timestamp ↔ i.toMillisecond = j.toMillisecond := by
  constructor
  · intro same
    -- The stamps are read back from the same text, and a stamp tells the instant to the
    -- millisecond.
    have read := dated.read?_timestamp
    rw [same, dated'.read?_timestamp] at read
    rw [← dated.instant_stamp, ← dated'.instant_stamp, Option.some.inj read]
  · intro same
    obtain ⟨seconds, rounded⟩ := Instant.mk.inj same
    have milliseconds : i.nanoseconds / 1000000 = j.nanoseconds / 1000000 := by omega
    have stamps : i.stamp = j.stamp := by
      simp only [stamp, date, seconds, milliseconds]
    rw [dated.timestamp_eq, dated'.timestamp_eq, stamps]

/-- From 1970 on and before the year 10000 the text of an instant is a stamp with every number in
its range, from which the instant is read back up to the millisecond; texts stand in the order of
their instants, and are the same only within one millisecond. Before 1970 the text is that of the
epoch. -/
theorem timestamp_faithful :
    (∀ i : Instant, i.Dated →
      i.timestamp.length = 24 ∧
        Row.HasOutline "0000-00-00T00:00:00.000Z".toList i.timestamp.toList ∧
        ∃ stamp : Stamp, stamp.InRange ∧ i.timestamp = stamp.text ∧
          Stamp.read? i.timestamp = some stamp ∧ stamp.instant = i.toMillisecond) ∧
    (∀ i j : Instant, i.Dated → j.Dated → i.nanosSinceEpoch ≤ j.nanosSinceEpoch →
      i.timestamp ≤ j.timestamp ∧
        (i.timestamp = j.timestamp ↔ i.toMillisecond = j.toMillisecond)) ∧
    ∀ i : Instant, i.seconds < 0 → i.timestamp = epoch.timestamp := by
  refine ⟨?_, ?_, ?_⟩
  · intro i dated
    have shape := dated.hasOutline_timestamp
    refine ⟨?_, shape, i.stamp, dated.inRange, dated.timestamp_eq, dated.read?_timestamp,
      dated.instant_stamp⟩
    rw [← String.length_toList, ← shape.length_eq]
    rfl
  · intro i j dated dated' before
    exact ⟨dated.timestamp_le_timestamp dated' before, dated.timestamp_eq_iff dated'⟩
  · intro i before
    have clamped : i.clamped = epoch.clamped := if_pos before
    rw [timestamp, timestamp, timestampChars, timestampChars, clamped]

theorem timestamp_faithful_at_leap_day :
    timestamp ⟨951868799, 999999999⟩ = "2000-02-29T23:59:59.999Z" ∧
    (timestamp ⟨951868799, 999999999⟩).length = 24 ∧
    timestamp ⟨951868799, 999999999⟩ ≤ timestamp ⟨951868800, 0⟩ ∧
    timestamp ⟨951868799, 999999999⟩ ≠ timestamp ⟨951868800, 0⟩ ∧
    timestamp ⟨-1, 500000000⟩ = epoch.timestamp := by
  obtain ⟨faithful, sorted, early⟩ := timestamp_faithful
  have last : Dated ⟨951868799, 999999999⟩ := ⟨by decide, by decide, by decide⟩
  have first : Dated ⟨951868800, 0⟩ := ⟨by decide, by decide, by decide⟩
  obtain ⟨before, same_iff⟩ := sorted _ _ last first (by decide)
  refine ⟨by decide +kernel, (faithful _ last).1, before, ?_, early _ (by decide)⟩
  intro same
  have rounded := same_iff.1 same
  revert rounded
  decide

end Instant

end FormatConformance
