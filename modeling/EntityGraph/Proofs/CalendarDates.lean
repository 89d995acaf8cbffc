import EntityGraph.Time.Instant
import Mathlib.Tactic.ByContra

/-!
The calendar both ways: the date of a day number exists, and its day number is that day. Inside an era of 400 years the
years are told apart by the days that are left when leap days are taken out.
-/
namespace EntityGraph.Calendar

/-- Days of an era up to a day, without the leap days among them. -/
def commonDays (dayOfEra : Nat) : Nat := dayOfEra - dayOfEra / 1460 + dayOfEra / 36524 - dayOfEra / 146096

/-- The first day of a year of an era. -/
def yearStart (yearOfEra : Nat) : Nat := 365 * yearOfEra + yearOfEra / 4 - yearOfEra / 100

theorem commonDays_succ (day : Nat) : commonDays day ≤ commonDays (day + 1) := by
  unfold commonDays
  omega

theorem commonDays_mono {earlier later : Nat} (ordered : earlier ≤ later) :
    commonDays earlier ≤ commonDays later := by
  induction ordered with
  | refl => exact Nat.le_refl _
  | step _ ih => exact Nat.le_trans ih (commonDays_succ _)

theorem commonDays_yearStart :
    ∀ year < 400,
      365 * year ≤ commonDays (yearStart year) ∧ commonDays (yearStart (year + 1) - 1) < 365 * (year + 1) := by
  decide +kernel

theorem yearStart_le (day : Nat) (inEra : day < 146097) : yearStart (commonDays day / 365) ≤ day := by
  by_contra early
  have bound : commonDays day / 365 ≤ 399 := by
    have last := commonDays_mono (Nat.le_of_lt_succ inEra)
    have count : commonDays 146096 = 145999 := rfl
    omega
  cases year : commonDays day / 365 with
  | zero => simp [year, yearStart] at early
  | succ before =>
    rw [year] at early
    have fewer := commonDays_mono (show day ≤ yearStart (before + 1) - 1 by omega)
    have below := (commonDays_yearStart before (by omega)).2
    omega

theorem lt_yearStart_succ (day : Nat) (year : commonDays day / 365 < 399) :
    day < yearStart (commonDays day / 365 + 1) := by
  by_contra late
  have more := commonDays_mono (Nat.le_of_not_lt late)
  have above := (commonDays_yearStart (commonDays day / 365 + 1) (by omega)).1
  omega

/-- The day inside its year, and why it can be the last one of a leap year. -/
theorem dayOfYear_bounds (day : Nat) (inEra : day < 146097) :
    let year := commonDays day / 365
    year ≤ 399 ∧ yearStart year ≤ day ∧ day ≤ yearStart year + 365 ∧
      (day = yearStart year + 365 → (year + 1) % 4 = 0 ∧ ((year + 1) % 100 ≠ 0 ∨ year = 399)) := by
  intro year
  have bound : year ≤ 399 := by
    have last := commonDays_mono (Nat.le_of_lt_succ inEra)
    have count : commonDays 146096 = 145999 := rfl
    omega
  have start := yearStart_le day inEra
  rcases Nat.lt_or_ge year 399 with inside | last
  · have next : day < yearStart (year + 1) := lt_yearStart_succ day inside
    have before : yearStart year ≤ day := start
    have centuries : year / 100 ≤ (year + 1) / 100 := by omega
    have leapless : (year + 1) % 4 ≠ 0 → (year + 1) / 4 = year / 4 := by omega
    have quarters : (year + 1) / 4 ≤ year / 4 + 1 := by omega
    have century : (year + 1) % 100 = 0 → (year + 1) / 100 = year / 100 + 1 := by omega
    unfold yearStart at *
    omega
  · have final : year = 399 := by omega
    have before : yearStart year ≤ day := start
    rw [final] at before ⊢
    have count : yearStart 399 = 145731 := rfl
    omega

/-- The month counted from March that a day of the year lies in, and the day of that month. -/
structure MonthDay (dayOfYear month day : Nat) : Prop where
  started : dayOfYear + 1 = (153 * month + 2) / 5 + day
  ended : dayOfYear < (153 * (month + 1) + 2) / 5
  first : 1 ≤ day
  last : month ≤ 11

theorem monthDay (dayOfYear : Nat) (inYear : dayOfYear ≤ 365) :
    MonthDay dayOfYear ((5 * dayOfYear + 2) / 153)
      (dayOfYear - (153 * ((5 * dayOfYear + 2) / 153) + 2) / 5 + 1) := by
  constructor <;> omega

/-- A date by its era, the year in it and the day of that year. -/
theorem date_parts (number : Int) :
    ∃ (era : Int) (year dayOfYear month day : Nat),
      year ≤ 399 ∧ dayOfYear ≤ 365 ∧ MonthDay dayOfYear month day ∧
      number + 719468 = era * 146097 + (yearStart year + dayOfYear : Nat) ∧
      (dayOfYear = 365 → (year + 1) % 4 = 0 ∧ ((year + 1) % 100 ≠ 0 ∨ year = 399)) ∧
      date number =
        (year + era * 400 + (if month < 10 then 0 else 1), if month < 10 then month + 3 else month - 9, day) := by
  obtain ⟨era, eraEq⟩ : ∃ era, (number + 719468) / 146097 = era := ⟨_, rfl⟩
  obtain ⟨dayOfEra, dayEq⟩ : ∃ day : Nat, number + 719468 - era * 146097 = day :=
    ⟨(number + 719468 - era * 146097).toNat, by omega⟩
  have inEra : dayOfEra < 146097 := by omega
  obtain ⟨lastYear, start, lastDay, leap⟩ := dayOfYear_bounds dayOfEra inEra
  have yearEq : ((dayOfEra : Int) - dayOfEra / 1460 + dayOfEra / 36524 - dayOfEra / 146096) / 365
      = (commonDays dayOfEra / 365 : Nat) := by
    unfold commonDays
    omega
  generalize commonDays dayOfEra / 365 = year at *
  obtain ⟨dayOfYear, rfl⟩ := Nat.exists_eq_add_of_le start
  have dayOfYearEq : ((yearStart year + dayOfYear : Nat) : Int) - (365 * year + (year : Int) / 4 - (year : Int) / 100)
      = dayOfYear := by
    unfold yearStart
    omega
  have inMonth := monthDay dayOfYear (by omega)
  refine ⟨era, year, dayOfYear, _, _, lastYear, by omega, inMonth, by omega, by omega, ?_⟩
  simp only [date, eraEq, dayEq, yearEq, dayOfYearEq]
  obtain ⟨started, ended, first, last⟩ := inMonth
  generalize monthEq : (5 * dayOfYear + 2) / 153 = month at *
  have monthInt : (5 * (dayOfYear : Int) + 2) / 153 = month := by omega
  rw [monthInt]
  by_cases early : month < 10
  · have spring : (month : Int) < 10 := by omega
    have march : ¬ (month : Int) + 3 ≤ 2 := by omega
    simp only [early, spring, march, if_true, if_false, Prod.mk.injEq, true_and]
    omega
  · have winter : ¬ (month : Int) < 10 := by omega
    have january : (month : Int) - 9 ≤ 2 := by omega
    simp only [early, winter, january, if_true, if_false, Prod.mk.injEq, true_and]
    omega

theorem dayNumber_parts {era : Int} {year dayOfYear month day : Nat} (inEra : year ≤ 399)
    (inMonth : MonthDay dayOfYear month day) :
    dayNumber (year + era * 400 + (if month < 10 then 0 else 1)) (if month < 10 then month + 3 else month - 9) day =
      era * 146097 + (yearStart year + dayOfYear : Nat) - 719468 := by
  obtain ⟨started, ended, first, last⟩ := inMonth
  have eraEq : (year + era * 400) / 400 = era := by omega
  have yearEq : year + era * 400 - era * 400 = year := by omega
  by_cases early : month < 10
  · have march : ¬ month + 3 ≤ 2 := by omega
    have monthEq : (((month + 3 : Nat) : Int) + 9) % 12 = month := by omega
    simp only [dayNumber, early, march, if_true, if_false, monthEq, Int.add_zero, eraEq, yearEq, yearStart]
    omega
  · have january : month - 9 ≤ 2 := by omega
    have monthEq : (((month - 9 : Nat) : Int) + 9) % 12 = month := by omega
    simp only [dayNumber, early, january, if_true, if_false, monthEq, Int.add_sub_cancel, eraEq, yearEq, yearStart]
    omega

theorem dayNumber_date (number : Int) : dayNumber (date number).1 (date number).2.1 (date number).2.2 = number := by
  obtain ⟨era, year, dayOfYear, month, day, inEra, -, inMonth, position, -, shown⟩ := date_parts number
  rw [shown, dayNumber_parts inEra inMonth]
  omega

/-- A year that begins in March has a last day of its own before a leap year's March. -/
theorem isLeapYear_of_lastDay {era : Int} {year : Nat}
    (leap : (year + 1) % 4 = 0 ∧ ((year + 1) % 100 ≠ 0 ∨ year = 399)) :
    isLeapYear (year + era * 400 + 1) = true := by
  simp only [isLeapYear, Bool.and_eq_true, Bool.or_eq_true, beq_iff_eq, bne_iff_ne, ne_eq]
  omega

theorem isDate_date {number : Int} (ranged : inRange (date number).1 = true) :
    isDate (date number).1 (date number).2.1 (date number).2.2 = true := by
  obtain ⟨era, year, dayOfYear, month, day, inEra, inYear, inMonth, -, leap, shown⟩ := date_parts number
  obtain ⟨started, ended, first, last⟩ := inMonth
  rw [shown] at ranged
  simp only [isDate, shown, ranged, Bool.true_and, Bool.and_eq_true, decide_eq_true_eq]
  by_cases early : month < 10
  · simp only [early, if_true]
    refine ⟨⟨⟨by omega, by omega⟩, first⟩, ?_⟩
    unfold daysInMonth
    split
    · omega
    · split <;> omega
  · simp only [early, if_false]
    refine ⟨⟨⟨by omega, by omega⟩, first⟩, ?_⟩
    unfold daysInMonth
    split
    · by_cases lastDay : dayOfYear = 365
      · rw [isLeapYear_of_lastDay (leap lastDay)]
        simp only [if_true]
        omega
      · split <;> omega
    · split <;> omega

end EntityGraph.Calendar
