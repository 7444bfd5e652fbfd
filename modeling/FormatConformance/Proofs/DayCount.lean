import FormatConformance.Proofs.Calendar

/-!
# Days and dates, one by one

Dates and the days that are counted from 1 January 1970 correspond to each other. The date after a
date has the next number (`Date.Valid.number_next`), and no number belongs to two dates
(`Date.Valid.eq_of_number_eq`), so the conversion goes through the calendar day by day, and counting
the days of a date undoes it.

The conversion uses words of 64 bits. `ofWord?` is the conversion with every single result looked
at: a word that does not fit, or a negative number where a number without sign is wanted, ends it.
Only the first addition can do that (`ofWord?_of_fits`). The quotient and the remainder that give
the era are Euclidean; every other quotient of words rounds toward zero, which makes no difference
as long as nothing is negative.
-/

namespace FormatConformance.Calendar

/-! ## The next date -/

theorem monthLength_pos (year : Int) (month : Nat) : 1 ≤ monthLength year month := by
  unfold monthLength
  repeat' split
  all_goals decide

namespace Date.Valid

variable {d e : Date}

theorem next (valid : d.Valid) : d.next.Valid := by
  obtain ⟨first, last, day, inside⟩ := valid
  unfold Date.next
  split_ifs with same_month same_year
  · exact ⟨first, last, Nat.le_add_left 1 _, same_month⟩
  · exact ⟨Nat.le_add_left 1 _, same_year, le_rfl, monthLength_pos _ _⟩
  · exact ⟨le_rfl, Nat.le_add_left 1 11, le_rfl, monthLength_pos _ _⟩

/-- The date after a date has the next number. -/
theorem number_next (valid : d.Valid) : d.next.number = d.number + 1 := by
  obtain ⟨first, last, day, inside⟩ := valid
  unfold Date.next
  split_ifs with same_month same_year
  · simp only [Date.number]
    push_cast
    ring
  · have month := monthStart_succ d.year first
    simp only [Date.number, month]
    push_cast
    omega
  · -- The last day of a year. Both years are counted to their first day, so all that is left is
    -- that the months of the old one fill it.
    have december : d.month = 12 := by omega
    have month : monthStart d.year 13 = monthStart d.year 12 + monthLength d.year 12 :=
      monthStart_succ d.year (by decide)
    have year := yearStart_succ d.year
    have january : monthStart (d.year + 1) 1 = 0 := rfl
    rw [monthStart_thirteen] at month
    rw [december] at same_month inside
    simp only [Date.number, year, january, december]
    push_cast
    omega

/-- Dates with one number are one date. -/
theorem eq_of_number_eq (valid : d.Valid) (valid' : e.Valid) (same : d.number = e.number) :
    d = e := by
  have not_before : ¬d.Before e := fun before =>
    (Date.number_lt_number valid valid' before).ne same
  have not_behind : ¬e.Before d := fun before =>
    (Date.number_lt_number valid' valid before).ne same.symm
  -- Neither stands before the other, and dates are ordered by year, month and day.
  obtain ⟨year, month, day⟩ := d
  obtain ⟨year', month', day'⟩ := e
  simp only [Date.Before] at not_before not_behind
  simp only [Date.mk.injEq]
  omega

/-- The date with the number of a date is that date. -/
theorem ofDays_number (valid : d.Valid) : ofDays d.number = d :=
  eq_of_number_eq (valid_ofDays _) valid (number_ofDays _)

end Date.Valid

theorem ofDays_succ (days : Int) : ofDays (days + 1) = (ofDays days).next := by
  have valid := valid_ofDays days
  have number : (ofDays days).next.number = days + 1 := by
    rw [valid.number_next, number_ofDays]
  rw [← number]
  exact valid.next.ofDays_number

theorem ofDays_injective : Function.Injective ofDays := by
  intro days days' same
  rw [← number_ofDays days, same, number_ofDays]

/-! ## Counting back

Counting the days of a date looks at no calendar, as the conversion does not. Both are compared by
the start of a year in March and a day of that year. -/

theorem toDays_ofMarch (year : Int) {day : Nat} (inside : day ≤ 365) :
    toDays (ofMarch year day) = marchStart year + day := by
  have first := @firstDayOfMonth_le_day day
  have last := monthOfYear_lt inside
  -- The count takes the year, the month and the day apart again that `ofMarch` put together.
  have march_year : (if (ofMarch year day).month ≤ 2 then (ofMarch year day).year - 1
      else (ofMarch year day).year) = year := by
    simp only [ofMarch]
    split_ifs <;> omega
  have march : ((ofMarch year day).month + 9) % 12 = monthOfYear day := by
    simp only [ofMarch]
    split_ifs <;> omega
  have month_day : firstDayOfMonth (monthOfYear day) + ((ofMarch year day).day - 1) = day := by
    simp only [ofMarch]
    omega
  -- The start of a year is known for the 400 years of an era, and for others by adding eras.
  have era_nonneg : 0 ≤ year % 400 := Int.emod_nonneg year (by decide)
  have era : ((year % 400).toNat : Int) + year / 400 * 400 = year := by
    rw [Int.toNat_of_nonneg era_nonneg]
    omega
  have inside : (year % 400).toNat < 400 := by omega
  have start := marchStart_eq inside (year / 400)
  rw [era] at start
  simp only [toDays, march_year, march, Nat.add_assoc, month_day]
  push_cast
  omega

theorem toDays_ofDays (days : Int) : toDays (ofDays days) = days := by
  obtain ⟨year, day, same, whole, inside⟩ := exists_march days
  rw [same, whole]
  exact toDays_ofMarch year (day_le_of_le inside)

/-! ## Words

In the range of a word all of the computation but its first addition is far from the ends. Words are
given as integers with a condition, so that a computation in words can be compared with one in
integers result by result. -/

/-- The numbers that a word of 64 bits with a sign can hold. -/
def Fits (n : Int) : Prop :=
  -0x8000000000000000 ≤ n ∧ n ≤ 0x7fffffffffffffff

instance (n : Int) : Decidable (Fits n) :=
  inferInstanceAs (Decidable (_ ∧ _))

/-- A result as a word; none when it does not fit. -/
def word? (n : Int) : Option Int :=
  if Fits n then some n else none

/-- A word as a number of 32 bits without sign; none when it is negative or too large. -/
def unsigned? (n : Int) : Option Nat :=
  if 0 ≤ n ∧ n ≤ 0xffffffff then some n.toNat else none

/-- `yearOfEra` in words. -/
def yearOfEra? (day : Int) : Option Int := do
  let fourths ← word? (day.tdiv 1460)
  let less ← word? (day - fourths)
  let centuries ← word? (day.tdiv 36524)
  let more ← word? (less + centuries)
  let eras ← word? (day.tdiv 146096)
  let even ← word? (more - eras)
  word? (even.tdiv 365)

/-- `firstDay` in words. -/
def firstDay? (year : Int) : Option Int := do
  let days ← word? (365 * year)
  let fourths ← word? (year.tdiv 4)
  let more ← word? (days + fourths)
  let centuries ← word? (year.tdiv 100)
  word? (more - centuries)

/-- `monthOfYear` in words. -/
def monthOfYear? (day : Int) : Option Int := do
  let fifths ← word? (5 * day)
  let more ← word? (fifths + 2)
  word? (more.tdiv 153)

/-- `firstDayOfMonth` in words. -/
def firstDayOfMonth? (month : Int) : Option Int := do
  let fifths ← word? (153 * month)
  let more ← word? (fifths + 2)
  word? (more.tdiv 5)

/-- `ofMarch` in words, the year given by its era. -/
def ofMarch? (yearOfEra era dayOfYear : Int) : Option Date := do
  let march ← monthOfYear? dayOfYear
  let monthStart ← firstDayOfMonth? march
  let before ← word? (dayOfYear - monthStart)
  let dayOfMonth ← word? (before + 1)
  let day ← unsigned? dayOfMonth
  let monthOfYear ← word? (if march < 10 then march + 3 else march - 9)
  let month ← unsigned? monthOfYear
  let years ← word? (era * 400)
  let sum ← word? (yearOfEra + years)
  let year ← word? (sum + if month ≤ 2 then 1 else 0)
  return ⟨year, month, day⟩

/-- `ofDays` in words, every result looked at. -/
def ofWord? (days : Int64) : Option Date := do
  let shifted ← word? (days.toInt + daysToEpoch)
  let era ← word? (shifted / daysPerEra)
  let dayOfEra ← word? (shifted % daysPerEra)
  let yearOfEra ← yearOfEra? dayOfEra
  let start ← firstDay? yearOfEra
  let dayOfYear ← word? (dayOfEra - start)
  ofMarch? yearOfEra era dayOfYear

theorem word?_of_fits {n m : Int} (same : n = m) (fits : Fits m) : word? n = some m := by
  rw [same, word?, if_pos fits]

/-- The next result fits, and then the rest of the computation. -/
theorem word?_bind {β : Type} {n m : Int} {f : Int → Option β} {b : Option β} (same : n = m)
    (fits : Fits m) (rest : f m = b) : word? n >>= f = b := by
  rw [word?_of_fits same fits]
  exact rest

theorem fits_natCast {m : Nat} (small : m ≤ 0xffffffff) : Fits m := by
  unfold Fits
  omega

theorem unsigned?_natCast {m : Nat} (small : m ≤ 0xffffffff) : unsigned? m = some m := by
  rw [unsigned?, if_pos ⟨Int.natCast_nonneg m, by exact_mod_cast small⟩, Int.toNat_natCast]

/-! ### The parts -/

theorem yearOfEra?_natCast {day : Nat} (inside : day < daysPerEra) :
    yearOfEra? day = some (yearOfEra day : Int) := by
  unfold daysPerEra at inside
  refine word?_bind (Int.ofNat_tdiv day 1460).symm (fits_natCast (by omega)) ?_
  -- No difference is negative, since a quotient is never more than what it is a quotient of.
  refine word?_bind (m := (day - day / 1460 : Nat)) (by omega) (fits_natCast (by omega)) ?_
  refine word?_bind (Int.ofNat_tdiv day 36524).symm (fits_natCast (by omega)) ?_
  refine word?_bind (Int.natCast_add _ _).symm (fits_natCast (by omega)) ?_
  refine word?_bind (Int.ofNat_tdiv day 146096).symm (fits_natCast (by omega)) ?_
  refine word?_bind (m := (day - day / 1460 + day / 36524 - day / 146096 : Nat)) (by omega)
    (fits_natCast (by omega)) ?_
  refine word?_of_fits (Int.ofNat_tdiv _ 365).symm (fits_natCast ?_)
  unfold yearOfEra
  omega

theorem firstDay?_natCast {year : Nat} (inside : year < 400) :
    firstDay? year = some (firstDay year : Int) := by
  refine word?_bind (Int.natCast_mul 365 year).symm (fits_natCast (by omega)) ?_
  refine word?_bind (Int.ofNat_tdiv year 4).symm (fits_natCast (by omega)) ?_
  refine word?_bind (Int.natCast_add _ _).symm (fits_natCast (by omega)) ?_
  refine word?_bind (Int.ofNat_tdiv year 100).symm (fits_natCast (by omega)) ?_
  unfold firstDay
  exact word?_of_fits (by omega) (fits_natCast (by omega))

theorem monthOfYear?_natCast {day : Nat} (inside : day ≤ 365) :
    monthOfYear? day = some (monthOfYear day : Int) := by
  refine word?_bind (Int.natCast_mul 5 day).symm (fits_natCast (by omega)) ?_
  refine word?_bind (Int.natCast_add _ 2).symm (fits_natCast (by omega)) ?_
  refine word?_of_fits (Int.ofNat_tdiv _ 153).symm (fits_natCast ?_)
  unfold monthOfYear
  omega

theorem firstDayOfMonth?_natCast {month : Nat} (inside : month < 12) :
    firstDayOfMonth? month = some (firstDayOfMonth month : Int) := by
  refine word?_bind (Int.natCast_mul 153 month).symm (fits_natCast (by omega)) ?_
  refine word?_bind (Int.natCast_add _ 2).symm (fits_natCast (by omega)) ?_
  refine word?_of_fits (Int.ofNat_tdiv _ 5).symm (fits_natCast ?_)
  unfold firstDayOfMonth
  omega

theorem ofMarch?_natCast {year day : Nat} {era : Int} (below : year < 400)
    (bounded : -0x1000000000000000 ≤ era * 400 ∧ era * 400 ≤ 0x1000000000000000)
    (short : day ≤ 365) : ofMarch? year era day = some (ofMarch (year + era * 400) day) := by
  have march := monthOfYear_lt short
  have first := @firstDayOfMonth_le_day day
  -- The month and the year come out of a case distinction, once in words and once in `ofMarch`.
  have month : (if (monthOfYear day : Int) < 10 then (monthOfYear day : Int) + 3
      else monthOfYear day - 9) = ((ofMarch (year + era * 400) day).month : Int) := by
    simp only [ofMarch]
    split_ifs <;> omega
  have month_le : (ofMarch (year + era * 400) day).month ≤ 12 := by
    simp only [ofMarch]
    split_ifs <;> omega
  have year_eq : (year : Int) + era * 400 +
      (if (ofMarch (year + era * 400) day).month ≤ 2 then 1 else 0) =
        (ofMarch (year + era * 400) day).year := by
    simp only [ofMarch]
    split_ifs <;> omega
  -- From here on one result after the other: first those that concern the day of the month.
  unfold ofMarch?
  rw [monthOfYear?_natCast short, Option.bind_eq_bind, Option.bind_some,
    firstDayOfMonth?_natCast march, Option.bind_some]
  refine word?_bind (Int.ofNat_sub first).symm (fits_natCast (by omega)) ?_
  refine word?_bind (Int.natCast_add _ 1).symm (fits_natCast (by omega)) ?_
  rw [unsigned?_natCast (by omega), Option.bind_eq_bind, Option.bind_some]
  -- The month is between 1 and 12 whichever case it comes from.
  refine word?_bind month (fits_natCast (by omega)) ?_
  rw [unsigned?_natCast (by omega), Option.bind_some]
  -- Only the year can be large or negative. It is bounded because its era is.
  refine word?_bind rfl (by unfold Fits; omega) ?_
  refine word?_bind rfl (by unfold Fits; omega) ?_
  refine word?_bind year_eq ?_ rfl
  rw [← year_eq]
  unfold Fits
  split_ifs <;> omega

/-! ### The whole -/

/-- From the first addition on nothing can go wrong. -/
theorem ofWord?_of_fits {days : Int64} (fits : Fits (days.toInt + daysToEpoch)) :
    ofWord? days = some (ofDays days.toInt) := by
  obtain ⟨era, dayOfEra, inside, era_eq, dayOfEra_eq, whole⟩ := exists_era days.toInt
  obtain ⟨below, start, last⟩ := yearOfEra_spec inside
  have short : dayOfEra - firstDay (yearOfEra dayOfEra) ≤ 365 :=
    day_le_of_le
      (day_le_of_lt_firstDay below (last.imp_right fun same => ⟨same, inside⟩) era)
  -- Only here the Euclidean remainder matters: it is not negative for days before the epoch either.
  have remainder : (days.toInt + daysToEpoch) % daysPerEra = dayOfEra := by
    have nonneg : 0 ≤ (days.toInt + daysToEpoch) % daysPerEra := Int.emod_nonneg _ (by decide)
    omega
  -- The era is a quotient of a word, so 400 eras are no more years than fit.
  have small : -0x1000000000000000 ≤ era * 400 ∧ era * 400 ≤ 0x1000000000000000 := by
    unfold Fits daysToEpoch daysPerEra at *
    omega
  have dayOfEra_le : dayOfEra ≤ 146096 := Nat.le_of_lt_succ inside
  rw [ofDays_eq_ofMarch era_eq dayOfEra_eq short]
  refine word?_bind rfl fits ?_
  refine word?_bind era_eq (by unfold Fits; omega) ?_
  refine word?_bind remainder (fits_natCast (by omega)) ?_
  rw [yearOfEra?_natCast inside, Option.bind_eq_bind, Option.bind_some, firstDay?_natCast below,
    Option.bind_some]
  refine word?_bind (Int.ofNat_sub start).symm (fits_natCast (by omega)) ?_
  exact ofMarch?_natCast below small short

/-- The conversion gives the dates of the Gregorian calendar, for days before and behind 1970. In
words of 64 bits it gives the same date, with no result that does not fit and no negative number
taken for one without sign, unless the first addition leaves the range. Each date is one that there
is, the day after has the next date, and the dates and the days that are counted from 1 January 1970
determine each other. -/
theorem ofDays_gregorian :
    (∀ days : Int64, Fits (days.toInt + daysToEpoch) →
      ofWord? days = some (ofDays days.toInt)) ∧
    ofDays 0 = ⟨1970, 1, 1⟩ ∧
    (∀ days, (ofDays days).Valid ∧ ofDays (days + 1) = (ofDays days).next ∧
      (ofDays days).number = days ∧ toDays (ofDays days) = days) ∧
    Function.Injective ofDays ∧
    (Date.mk 1970 1 1).number = 0 ∧
    ∀ d : Date, d.Valid → d.next.Valid ∧ d.next.number = d.number + 1 ∧
      ofDays d.number = d ∧ toDays d = d.number := by
  refine ⟨fun days => ofWord?_of_fits, rfl, fun days => ?_, ofDays_injective, rfl,
    fun d valid => ?_⟩
  · -- Of a day its date is looked at, of a date its number: each is undone by the other.
    exact ⟨valid_ofDays days, ofDays_succ days, number_ofDays days, toDays_ofDays days⟩
  · refine ⟨valid.next, valid.number_next, valid.ofDays_number, ?_⟩
    calc toDays d = toDays (ofDays d.number) := by rw [valid.ofDays_number]
      _ = d.number := toDays_ofDays _

/-- The last day that a word can count, and a leap day before 1970. -/
theorem ofDays_gregorian_at_the_ends :
    ofWord? 0x7ffffffffff50593 = some (ofDays 0x7ffffffffff50593) ∧
      (Date.mk (-400) 2 29).Valid ∧ ofDays (Date.mk (-400) 2 29).number = ⟨-400, 2, 29⟩ := by
  obtain ⟨in_words, -, -, -, -, dates⟩ := ofDays_gregorian
  have valid : (Date.mk (-400) 2 29).Valid := by
    unfold Date.Valid
    decide
  exact ⟨in_words 0x7ffffffffff50593 (by decide), valid, (dates _ valid).2.2.1⟩

end FormatConformance.Calendar
