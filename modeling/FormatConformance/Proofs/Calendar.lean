import FormatConformance.Calendar
import Mathlib.Algebra.BigOperators.Intervals
import Mathlib.Algebra.Order.BigOperators.Group.Finset
import Mathlib.Tactic.IntervalCases
import Mathlib.Tactic.Linarith
import Mathlib.Tactic.Ring

/-!
# Dates and the days between them

The number of a date is counted as a calendar is read: the days of the years before, the days of the
months before, and the day (`Date.number`). Dates in their order have rising numbers
(`Date.number_lt_number`), and the conversion from a number gives a date that there is
(`valid_ofDays`) and that has this number (`number_ofDays`).

The conversion counts years from March. Inside four hundred years the year of a day does not fall as
the day rises, so it is right everywhere once it is right on the first and on the last day of each
year, and these are checked one by one (`yearOfEra_ends`). What is left is the distance from
1 January to 1 March (`marchStart_eq`).
-/

namespace FormatConformance.Calendar

/-! ## Counting days -/

/-- One day in a leap year and none in another. -/
def leapDay (year : Int) : Nat :=
  if isLeap year then 1 else 0

/-- The days from 1 January 1970 to 1 January of a year: 365 for each year, and one for each leap
year between. -/
def yearStart (year : Int) : Int :=
  365 * (year - 1970) + ((year - 1) / 4 - (year - 1) / 100 + (year - 1) / 400 - 477)

/-- The days from 1 January to the first day of a month. -/
def monthStart (year : Int) (month : Nat) : Nat :=
  ∑ m ∈ Finset.Ico 1 month, monthLength year m

/-- The days from 1 January 1970 to a date. -/
def Date.number (d : Date) : Int :=
  yearStart d.year + monthStart d.year d.month + d.day - 1

theorem leapDay_eq (year : Int) :
    (leapDay year : Int) = (if year % 4 = 0 then 1 else 0) - (if year % 100 = 0 then 1 else 0) +
      (if year % 400 = 0 then 1 else 0) := by
  unfold leapDay isLeap
  simp only [Bool.and_eq_true, Bool.or_eq_true, decide_eq_true_eq]
  split_ifs <;> omega

theorem leapDay_le_one (year : Int) : leapDay year ≤ 1 := by
  unfold leapDay
  split <;> decide

theorem yearStart_epoch : yearStart 1970 = 0 := rfl

theorem monthLength_le (year : Int) (month : Nat) : monthLength year month ≤ 31 := by
  unfold monthLength
  repeat' split
  all_goals decide

/-- A year has 365 days, and one more when it is a leap year. -/
theorem yearStart_succ (year : Int) :
    yearStart (year + 1) = yearStart year + 365 + leapDay year := by
  rw [leapDay_eq]
  unfold yearStart
  omega

theorem monthStart_succ (year : Int) {month : Nat} (first : 1 ≤ month) :
    monthStart year (month + 1) = monthStart year month + monthLength year month :=
  Finset.sum_Ico_succ_top first _

/-! ### Months -/

theorem monthStart_three (year : Int) : monthStart year 3 = 59 + leapDay year := by
  simp only [monthStart, Finset.sum_Ico_succ_top (by decide : 1 ≤ 2), Nat.Ico_succ_singleton,
    Finset.sum_singleton, monthLength, leapDay]
  split_ifs <;> rfl

theorem firstDayOfMonth_succ (year : Int) {march : Nat} (inside : march < 10) :
    firstDayOfMonth (march + 1) = firstDayOfMonth march + monthLength year (march + 3) := by
  interval_cases march <;> rfl

/-- From March on, months begin in every year as they do in one that begins in March. -/
theorem monthStart_march (year : Int) {march : Nat} (inside : march ≤ 10) :
    monthStart year (march + 3) = 59 + leapDay year + firstDayOfMonth march := by
  induction march with
  | zero => exact monthStart_three year
  | succ march ih =>
    have later : march + 1 + 3 = march + 3 + 1 := by omega
    rw [later, monthStart_succ year (by omega), ih (by omega), firstDayOfMonth_succ year inside]
    omega

theorem monthStart_thirteen (year : Int) : monthStart year 13 = 365 + leapDay year := by
  have december : monthStart year 13 = 59 + leapDay year + firstDayOfMonth 10 :=
    monthStart_march year le_rfl
  have first : firstDayOfMonth 10 = 306 := rfl
  omega

theorem monthStart_mono (year : Int) {month later : Nat} (before : month ≤ later) :
    monthStart year month ≤ monthStart year later :=
  Finset.sum_le_sum_of_subset (Finset.Ico_subset_Ico_right before)

/-! ### The order of dates -/

/-- Dates by their years, then by their months, then by their days. -/
def Date.Before (d e : Date) : Prop :=
  d.year < e.year ∨ d.year = e.year ∧ (d.month < e.month ∨ d.month = e.month ∧ d.day < e.day)

/-- A date lies before the first day of every later month of its year, the month after December
included. -/
theorem Date.Valid.number_lt_monthStart {d : Date} (valid : d.Valid) {month : Nat}
    (later : d.month < month) : d.number < yearStart d.year + monthStart d.year month := by
  obtain ⟨first, -, -, day⟩ := valid
  have ends : monthStart d.year d.month + monthLength d.year d.month ≤ monthStart d.year month := by
    rw [← monthStart_succ d.year first]
    exact monthStart_mono d.year later
  unfold Date.number
  omega

theorem Date.Valid.monthStart_le_number {d : Date} (valid : d.Valid) {month : Nat}
    (earlier : month ≤ d.month) : yearStart d.year + monthStart d.year month ≤ d.number := by
  obtain ⟨-, -, first, -⟩ := valid
  have starts := monthStart_mono d.year earlier
  unfold Date.number
  omega

theorem yearStart_mono {year later : Int} (before : year ≤ later) :
    yearStart year ≤ yearStart later := by
  unfold yearStart
  omega

theorem Date.Valid.yearStart_le_number {d : Date} (valid : d.Valid) :
    yearStart d.year ≤ d.number := by
  have january : monthStart d.year 1 = 0 := rfl
  have starts := valid.monthStart_le_number valid.1
  rw [january] at starts
  omega

theorem Date.Valid.number_lt_yearStart {d : Date} (valid : d.Valid) :
    d.number < yearStart (d.year + 1) := by
  have last : d.month < 13 := Nat.lt_succ_of_le valid.2.1
  have ends := valid.number_lt_monthStart last
  rw [monthStart_thirteen] at ends
  rw [yearStart_succ]
  omega

/-- Later dates have greater numbers. -/
theorem Date.number_lt_number {d e : Date} (valid : d.Valid) (valid' : e.Valid)
    (before : d.Before e) : d.number < e.number := by
  obtain earlier | ⟨year, earlier | ⟨month, earlier⟩⟩ := before
  · -- An earlier year ends before the later one begins.
    calc d.number < yearStart (d.year + 1) := valid.number_lt_yearStart
      _ ≤ yearStart e.year := yearStart_mono earlier
      _ ≤ e.number := valid'.yearStart_le_number
  · -- In one year an earlier month ends before the later one begins.
    calc d.number < yearStart d.year + monthStart d.year e.month :=
          valid.number_lt_monthStart earlier
      _ = yearStart e.year + monthStart e.year e.month := by rw [year]
      _ ≤ e.number := valid'.monthStart_le_number le_rfl
  · unfold Date.number
    rw [year, month]
    omega

/-! ## Years that begin in March

With March first, the leap day is the last day of a year and the months before it always have the
same lengths. The year of a day is then a matter of division, once it is known at both ends of each
year. -/

theorem yearOfEra_mono {day later : Nat} (before : day ≤ later) (inside : later < daysPerEra) :
    yearOfEra day ≤ yearOfEra later := by
  unfold yearOfEra daysPerEra at *
  apply Nat.div_le_div_right
  omega

theorem yearOfEra_ends :
    ∀ year < 400,
      yearOfEra (firstDay year) = year ∧ yearOfEra (firstDay (year + 1) - 1) = year := by
  decide +kernel

/-- The year of a day is the one that the day lies in. The last year of an era has one day more than
the counting of the first days tells. -/
theorem yearOfEra_spec {day : Nat} (inside : day < daysPerEra) :
    yearOfEra day < 400 ∧ firstDay (yearOfEra day) ≤ day ∧
      (day < firstDay (yearOfEra day + 1) ∨ yearOfEra day = 399) := by
  have last : yearOfEra (daysPerEra - 1) = 399 := by decide +kernel
  have below : yearOfEra day < 400 := by
    have bound : yearOfEra day ≤ yearOfEra (daysPerEra - 1) :=
      yearOfEra_mono (by omega) (by decide)
    omega
  refine ⟨below, ?_, ?_⟩
  · -- The last day of the year before would have too great a year.
    by_contra before
    have positive : yearOfEra day ≠ 0 := by
      intro zero
      rw [zero] at before
      exact before (Nat.zero_le day)
    obtain ⟨year, same⟩ := Nat.exists_eq_add_one_of_ne_zero positive
    rw [same] at before
    have small : firstDay (year + 1) - 1 < daysPerEra := by
      unfold firstDay daysPerEra
      omega
    have bound : yearOfEra day ≤ yearOfEra (firstDay (year + 1) - 1) :=
      yearOfEra_mono (by omega) small
    rw [(yearOfEra_ends year (by omega)).2, same] at bound
    omega
  · -- The first day of the next year would have too small a year.
    by_contra outside
    obtain ⟨behind, other⟩ := not_or.1 outside
    have bound : yearOfEra (firstDay (yearOfEra day + 1)) ≤ yearOfEra day :=
      yearOfEra_mono (not_lt.1 behind) inside
    rw [(yearOfEra_ends (yearOfEra day + 1) (by omega)).1] at bound
    omega

/-- The days from 1 January 1970 to 1 March of a year. -/
def marchStart (year : Int) : Int :=
  yearStart year + 59 + leapDay year

theorem marchStart_eq {year : Nat} (inside : year < 400) (era : Int) :
    marchStart (year + era * 400) = era * daysPerEra + firstDay year - daysToEpoch := by
  unfold marchStart
  rw [leapDay_eq]
  unfold yearStart firstDay daysPerEra daysToEpoch
  omega

theorem yearStart_succ_eq_marchStart (year : Int) :
    yearStart (year + 1) = marchStart year + 306 := by
  rw [yearStart_succ, marchStart]
  ring

/-- The date a number of days after 1 March of a year. -/
def ofMarch (year : Int) (day : Nat) : Date :=
  let march := monthOfYear day
  ⟨year + (if march < 10 then 0 else 1), if march < 10 then march + 3 else march - 9,
    day - firstDayOfMonth march + 1⟩

/-- The last day of a year that begins in March is a leap day or the day before one would come. -/
theorem day_le_of_lt_firstDay {year day : Nat} (inside : year < 400)
    (ends : day < firstDay (year + 1) ∨ year = 399 ∧ day < daysPerEra) (era : Int) :
    day - firstDay year ≤ 364 + leapDay (year + era * 400 + 1) := by
  have leap := leapDay_eq (year + era * 400 + 1)
  unfold firstDay daysPerEra at *
  omega

/-- A day by the era that it lies in. -/
theorem exists_era (days : Int) :
    ∃ (era : Int) (day : Nat), day < daysPerEra ∧ (days + daysToEpoch) / daysPerEra = era ∧
      ((days + daysToEpoch) % daysPerEra).toNat = day ∧
      days = era * daysPerEra + day - daysToEpoch := by
  have positive : (0 : Int) < daysPerEra := by decide
  have nonneg := Int.emod_nonneg (days + daysToEpoch) positive.ne'
  have below := Int.emod_lt_of_pos (days + daysToEpoch) positive
  have whole := Int.emod_add_mul_ediv (days + daysToEpoch) daysPerEra
  refine ⟨_, _, ?_, rfl, rfl, ?_⟩
  · omega
  · rw [Int.toNat_of_nonneg nonneg]
    linarith

theorem day_le_of_le {day : Nat} {year : Int} (inside : day ≤ 364 + leapDay year) : day ≤ 365 :=
  inside.trans (Nat.add_le_add_left (leapDay_le_one year) 364)

theorem monthOfYear_lt {day : Nat} (inside : day ≤ 365) : monthOfYear day < 12 := by
  unfold monthOfYear
  omega

/-- The date of a day by the year of its era and the day of that year. -/
theorem ofDays_eq_ofMarch {days era : Int} {day : Nat}
    (era_eq : (days + daysToEpoch) / daysPerEra = era)
    (day_eq : ((days + daysToEpoch) % daysPerEra).toNat = day)
    (short : day - firstDay (yearOfEra day) ≤ 365) :
    ofDays days = ofMarch (yearOfEra day + era * 400) (day - firstDay (yearOfEra day)) := by
  have month := monthOfYear_lt short
  simp only [ofDays, era_eq, day_eq, ofMarch, Date.mk.injEq, and_true]
  split_ifs <;> omega

/-- A day by the last 1 March before it. -/
theorem exists_march (days : Int) :
    ∃ year day, ofDays days = ofMarch year day ∧ days = marchStart year + day ∧
      day ≤ 364 + leapDay (year + 1) := by
  obtain ⟨era, dayOfEra, inside, era_eq, dayOfEra_eq, whole⟩ := exists_era days
  obtain ⟨below, first, last⟩ := yearOfEra_spec inside
  have short : dayOfEra - firstDay (yearOfEra dayOfEra) ≤
      364 + leapDay (yearOfEra dayOfEra + era * 400 + 1) :=
    day_le_of_lt_firstDay below (last.imp_right fun same => ⟨same, inside⟩) era
  refine ⟨yearOfEra dayOfEra + era * 400, dayOfEra - firstDay (yearOfEra dayOfEra),
    ofDays_eq_ofMarch era_eq dayOfEra_eq (day_le_of_le short), ?_, short⟩
  rw [marchStart_eq below]
  push_cast [first]
  linarith

/-! ## The conversion

A day is taken apart into an era, a year and a month, each of which begins in March. What is left is
to see that the date put together from them is one of the calendar and has the number that was taken
apart. -/

theorem firstDayOfMonth_le_day {day : Nat} : firstDayOfMonth (monthOfYear day) ≤ day := by
  unfold firstDayOfMonth monthOfYear
  omega

theorem day_lt_firstDayOfMonth {day : Nat} : day < firstDayOfMonth (monthOfYear day + 1) := by
  unfold firstDayOfMonth monthOfYear
  omega

/-- A date counted from March has the number of days from that March on. -/
theorem number_ofMarch (year : Int) {day : Nat} (inside : day ≤ 365) :
    (ofMarch year day).number = marchStart year + day := by
  have first := @firstDayOfMonth_le_day day
  have last := monthOfYear_lt inside
  -- January and February lie in the next year of the calendar.
  by_cases same_year : monthOfYear day < 10
  · have start := monthStart_march year same_year.le
    simp only [ofMarch, if_pos same_year, Date.number, add_zero, start]
    unfold marchStart
    push_cast [first]
    omega
  · have start : monthStart (year + 1) (monthOfYear day - 9) + 306 =
        firstDayOfMonth (monthOfYear day) := by
      obtain march | march : monthOfYear day = 10 ∨ monthOfYear day = 11 := by omega
      · rw [march]
        rfl
      · rw [march]
        rfl
    simp only [ofMarch, if_neg same_year, Date.number, yearStart_succ_eq_marchStart]
    push_cast [first]
    omega

theorem valid_ofMarch {year : Int} {day : Nat} (inside : day ≤ 364 + leapDay (year + 1)) :
    (ofMarch year day).Valid := by
  have first := @firstDayOfMonth_le_day day
  have behind := @day_lt_firstDayOfMonth day
  have last := monthOfYear_lt (day_le_of_le inside)
  -- Only February can have a leap day, so its length is looked at by itself.
  by_cases same_year : monthOfYear day < 10
  · have length := firstDayOfMonth_succ year same_year
    simp only [ofMarch, if_pos same_year, Date.Valid, add_zero]
    omega
  · obtain march | march : monthOfYear day = 10 ∨ monthOfYear day = 11 := by omega
    · have january : ofMarch year day = ⟨year + 1, 1, day - 306 + 1⟩ := by
        simp only [ofMarch, march]
        rfl
      rw [march] at behind
      have behind : day < 337 := behind
      rw [january]
      refine ⟨le_rfl, ?_, Nat.le_add_left 1 _, ?_⟩
      · show 1 ≤ 12
        decide
      · show day - 306 + 1 ≤ 31
        omega
    · -- Here the bound on the day of the year is what makes the last day exist.
      have february : ofMarch year day = ⟨year + 1, 2, day - 337 + 1⟩ := by
        simp only [ofMarch, march]
        rfl
      have length : monthLength (year + 1) 2 = 28 + leapDay (year + 1) := by
        unfold monthLength leapDay
        split_ifs <;> rfl
      rw [february]
      refine ⟨one_le_two, ?_, Nat.le_add_left 1 _, ?_⟩
      · show 2 ≤ 12
        decide
      · show day - 337 + 1 ≤ monthLength (year + 1) 2
        omega

/-- Every number of days is converted to a date that there is. -/
theorem valid_ofDays (days : Int) : (ofDays days).Valid := by
  obtain ⟨year, day, same, -, inside⟩ := exists_march days
  rw [same]
  exact valid_ofMarch inside

/-- The date has the number that it was converted from. -/
theorem number_ofDays (days : Int) : (ofDays days).number = days := by
  obtain ⟨year, day, same, whole, inside⟩ := exists_march days
  rw [same, whole]
  exact number_ofMarch year (day_le_of_le inside)

end FormatConformance.Calendar
