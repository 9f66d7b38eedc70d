import ODataService.Time.Calendar

/-!
# Dates by day number

`Date.ofOrdinal` finds, for every day number, a date of the calendar with that
number. The estimate of the year is off by one at most, and the search for the
month passes over the months that end before the day.
-/

namespace ODataService.Time

/-- The rule of leap years. -/
theorem isLeapYear_iff {y : Nat} :
    isLeapYear y = true ↔ y % 4 = 0 ∧ (y % 100 ≠ 0 ∨ y % 400 = 0) := by
  simp [isLeapYear]

/-- A leap year has a day more than others. -/
theorem daysBeforeYear_succ {y : Nat} (h : 1 ≤ y) :
    daysBeforeYear (y + 1) = daysBeforeYear y + if isLeapYear y then 366 else 365 := by
  obtain ⟨p, rfl⟩ : ∃ p, y = p + 1 := ⟨y - 1, by omega⟩
  -- each count of leap days grows at the multiples of its period only
  have hFour : (p + 1) / 4 = p / 4 + if (p + 1) % 4 = 0 then 1 else 0 := by split <;> omega
  have hHundred : (p + 1) / 100 = p / 100 + if (p + 1) % 100 = 0 then 1 else 0 := by
    split <;> omega
  have hFourHundred : (p + 1) / 400 = p / 400 + if (p + 1) % 400 = 0 then 1 else 0 := by
    split <;> omega
  have hBelow : p / 100 ≤ p := Nat.div_le_self p 100
  simp only [daysBeforeYear, Nat.add_sub_cancel, hFour, hHundred, hFourHundred, isLeapYear_iff]
  -- the rule of leap years, case by case
  by_cases h4 : (p + 1) % 4 = 0
  · by_cases h100 : (p + 1) % 100 = 0
    · by_cases h400 : (p + 1) % 400 = 0
      · rw [if_pos h4, if_pos h100, if_pos h400, if_pos ⟨h4, .inr h400⟩]
        omega
      · rw [if_pos h4, if_pos h100, if_neg h400, if_neg fun h => h.2.elim (absurd h100) h400]
        omega
    · have h400 : ¬ (p + 1) % 400 = 0 := by omega
      rw [if_pos h4, if_neg h100, if_neg h400, if_pos ⟨h4, .inl h100⟩]
      omega
  · have h100 : ¬ (p + 1) % 100 = 0 := by omega
    have h400 : ¬ (p + 1) % 400 = 0 := by omega
    rw [if_neg h4, if_neg h100, if_neg h400, if_neg fun h => h4 h.1]
    omega

/-- A later year has more days in front of it. -/
theorem daysBeforeYear_mono {y z : Nat} (h : y ≤ z) : daysBeforeYear y ≤ daysBeforeYear z := by
  induction h with
  | refl => exact Nat.le_refl _
  | @step z _ ih =>
    refine Nat.le_trans ih ?_
    rcases Nat.eq_zero_or_pos z with rfl | hPos
    · exact Nat.le_refl _
    · rw [daysBeforeYear_succ hPos]
      exact Nat.le_add_right _ _

/-- No month has more than 31 days. -/
theorem daysInMonth_le (y m : Nat) : daysInMonth y m ≤ 31 := by
  unfold daysInMonth
  split
  case h_12 => split <;> omega
  all_goals omega

/-- The months fill the year. -/
theorem daysBeforeMonth_thirteen (y : Nat) :
    daysBeforeMonth y 13 = if isLeapYear y then 366 else 365 := by
  simp only [daysBeforeMonth, daysInMonth]
  split <;> rfl

namespace Date

/-- The day is in its month, the month in its year, and the year has begun to
be counted. -/
structure IsValid (d : Date) : Prop where
  year : 1 ≤ d.year
  month : 1 ≤ d.month ∧ d.month ≤ 12
  day : 1 ≤ d.day ∧ d.day ≤ daysInMonth d.year d.month

/-- The year of a day starts no later than the day, and the next one after it. -/
theorem yearOf_spec (n : Nat) :
    1 ≤ yearOf n ∧ daysBeforeYear (yearOf n) ≤ n ∧ n < daysBeforeYear (yearOf n + 1) := by
  unfold yearOf
  dsimp only
  split
  · -- the estimate may be a year too late
    next hEarly =>
    simp only [daysBeforeYear] at *
    omega
  split
  · -- or a year too early
    next hLate =>
    simp only [daysBeforeYear] at *
    omega
  · omega

/-- The month found for a day starts no later than the day, and the next one after it. -/
theorem monthOf_spec {y n : Nat} (fuel m : Nat) (hLow : daysBeforeMonth y m ≤ n)
    (hHigh : n < daysBeforeMonth y (m + fuel + 1)) :
    m ≤ monthOf y n fuel m ∧ monthOf y n fuel m ≤ m + fuel ∧
      daysBeforeMonth y (monthOf y n fuel m) ≤ n ∧
      n < daysBeforeMonth y (monthOf y n fuel m + 1) := by
  induction fuel generalizing m with
  | zero => exact ⟨Nat.le_refl m, Nat.le_refl m, hLow, hHigh⟩
  | succ fuel ih =>
    unfold monthOf
    split
    · next hFound => exact ⟨Nat.le_refl m, by omega, hLow, hFound⟩
    · -- the day is not in the month `m`, so the search goes on behind it
      next hLater =>
      have hEnd : m + 1 + fuel + 1 = m + (fuel + 1) + 1 := by omega
      have := ih (m + 1) (by omega) (hEnd ▸ hHigh)
      omega

/-- The date of a day number is on the calendar and has that number. -/
theorem ofOrdinal_spec (n : Nat) : (ofOrdinal n).IsValid ∧ (ofOrdinal n).ordinal = n := by
  obtain ⟨hYear, hYearLow, hYearHigh⟩ := yearOf_spec n
  generalize hy : yearOf n = y at *
  -- the day of the year lies within its months
  have hRest : n - daysBeforeYear y < daysBeforeMonth y (1 + 11 + 1) := by
    have hLength := daysBeforeYear_succ hYear
    rw [← daysBeforeMonth_thirteen] at hLength
    show n - daysBeforeYear y < daysBeforeMonth y 13
    omega
  obtain ⟨hFirst, hLast, hMonthLow, hMonthHigh⟩ := monthOf_spec 11 1 (Nat.zero_le _) hRest
  have hDate : ofOrdinal n = ⟨y, monthOf y (n - daysBeforeYear y) 11 1,
      n - daysBeforeYear y - daysBeforeMonth y (monthOf y (n - daysBeforeYear y) 11 1) + 1⟩ := by
    simp only [ofOrdinal, hy]
  rw [hDate]
  generalize monthOf y (n - daysBeforeYear y) 11 1 = m at *
  -- the day is in its month, since the next month starts behind it
  have hDays : daysBeforeMonth y (m + 1) = daysBeforeMonth y m + daysInMonth y m := rfl
  constructor
  · exact ⟨hYear, ⟨hFirst, by omega⟩, by dsimp only; omega⟩
  · simp only [ordinal]
    omega

/-- Days before a year are in earlier years. -/
theorem year_lt_of_ordinal_lt {d : Date} {y : Nat} (h : d.ordinal < daysBeforeYear y) :
    d.year < y := by
  refine Nat.lt_of_not_le fun hLater => ?_
  have := daysBeforeYear_mono hLater
  simp only [ordinal] at h
  omega

end Date

end ODataService.Time
